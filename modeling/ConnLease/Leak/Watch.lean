import ConnLease.LogEvent
import ConnLease.Roster
import ConnLease.Scheduler

/-!
# The leak watch

Arming a detector schedules a check for the time at which its connection counts as leaked. A check
is pending until it fires or is cancelled, and it stays what it has become. Time moves only when
the watch settles: all checks that have come due by then fire, each at its own due time, and each
hands one report to the reporter of its timer. A timer that has been shut down takes no new checks;
its pending checks stay pending and can still be cancelled. A check of such a timer fires only if it
was due at once and has not been looked at since: then the scheduler decides.

Times are in whole milliseconds from the start. A check is due when the scheduler has slept for its
threshold.
-/

namespace ConnLease.Leak

/-- Where the reports of a timer go. -/
inductive Reporter where
  /-- Kept together with their time. -/
  | collect
  /-- Sent through a channel, which drops them once its receiver is gone. -/
  | channel (receiving : Bool)
  /-- Logged only. -/
  | log
deriving Repr, DecidableEq

structure Timer where
  reporter : Reporter
  shutDown : Bool := false
deriving Repr, DecidableEq

def Timer.describe (t : Timer) : String :=
  "LeakTimer \x7b shut_down: " ++ toString t.shutDown ++ ", .. \x7d"

inductive CheckStatus where
  | pending
  | fired
  | cancelled
deriving Repr, DecidableEq

def CheckStatus.phase : CheckStatus → LeakPhase
  | .pending => .armed
  | .fired => .fired
  | .cancelled => .cancelled

/-- A scheduled leak check. -/
structure Check where
  connection : Nat
  timer : Nat
  threshold : Duration
  /-- When the check is due. -/
  due : Nat
  /-- Whether the check fires although its timer has been shut down: it was due at once, and the
  scheduler prefers its sleep. -/
  heedless : Bool
  status : CheckStatus := .pending
deriving Repr, DecidableEq

/-- What a reporter is handed when a check fires. -/
structure Report where
  time : Nat
  timer : Nat
  connection : Nat
  threshold : Duration
  /-- The reporter as it was when the check fired. -/
  reporter : Reporter
deriving Repr, DecidableEq

/-- The event that a report leaves in the log. -/
def Report.events (r : Report) : List LogEvent :=
  match r.reporter with
  | .collect | .channel true => []
  | .channel false => [.reportDropped r.connection]
  | .log => [.leakDetected r.connection r.threshold]

/-- A detector watches one borrow cycle at a time through the check with a given number. -/
structure Detector where
  check : Option Nat := none
deriving Repr, DecidableEq

/-- Time, timers, and all checks ever scheduled. -/
structure Watch where
  now : Nat := 0
  timers : Roster 0 Timer := .empty
  checks : Roster 0 Check := .empty
  /-- Everything that was ever handed to a reporter. -/
  reports : List Report := []
deriving Repr, DecidableEq

namespace Watch

/-- The phase of a detector: that of its check, or unarmed if it has none. -/
def phase (w : Watch) (d : Detector) : LeakPhase :=
  match d.check.bind w.checks.get? with
  | some check => check.status.phase
  | none => .unarmed

def hasPlace (d : Detector) : Bool := d.check.isSome

/-- The next check to be scheduled, for a given connection. -/
def newCheck [Scheduler] (w : Watch) (connection : Nat) (threshold : Duration) (timer : Nat) :
    Check where
  connection := connection
  timer := timer
  threshold := threshold
  due := w.now + Scheduler.sleep threshold
  heedless := Scheduler.sleep threshold == 0 && Scheduler.prefersSleep w.checks.next

/-- Schedule a check for a connection. Only an unarmed detector can be armed, and only on a timer
that runs; the detector is looked at first. A refused arming changes nothing. -/
def arm [Scheduler] (w : Watch) (d : Detector) (connection : Nat) (threshold : Duration)
    (timer : Nat) : Except LeaseError (Watch × Detector) :=
  if w.phase d ≠ .unarmed then .error (.leakDetection connection (w.phase d))
  else
    match w.timers.get? timer with
    | some { shutDown := false, .. } =>
      let check := w.newCheck connection threshold timer
      .ok ({ w with checks := w.checks.push check }, ⟨some w.checks.next⟩)
    | _ => .error .timerShutDown

def setStatus (w : Watch) (n : Nat) (status : CheckStatus) : Watch :=
  { w with checks := w.checks.modify n fun check => { check with status } }

/-- Cancel the pending check of a detector; the answer tells whether there was one. -/
def cancel (w : Watch) (d : Detector) : Watch × Bool :=
  if w.phase d = .armed then
    match d.check with
    | some n => (w.setStatus n .cancelled, true)
    | none => (w, false)
  else (w, false)

/-- Give up the check of a detector, pending or not; the detector is unarmed afterwards. -/
def reset (w : Watch) (d : Detector) : Watch × Detector := ((w.cancel d).1, {})

def isRunning (w : Watch) (timer : Nat) : Bool :=
  match w.timers.get? timer with
  | some t => !t.shutDown
  | none => false

/-- Whether a check fires when the watch settles at a given time. -/
def isDue (w : Watch) (time : Nat) (check : Check) : Bool :=
  check.status = .pending && check.due ≤ time && (w.isRunning check.timer || check.heedless)

/-- The report of a check that fires. -/
def report (w : Watch) (check : Check) : Report where
  time := check.due
  timer := check.timer
  connection := check.connection
  threshold := check.threshold
  reporter := ((w.timers.get? check.timer).map (·.reporter)).getD .log

/-- The reports of the checks that fire by a given time, in the order in which they come due;
checks due at the same time fire in the order in which they were scheduled. -/
def firing (w : Watch) (time : Nat) : List Report :=
  ((w.checks.toList.filter (w.isDue time)).mergeSort (·.due ≤ ·.due)).map w.report

/-- Let time pass and everything due by then happen. -/
def settle (w : Watch) (millis : Nat) : Watch × List Report :=
  let time := w.now + millis
  let fired := w.firing time
  ({ w with
      now := time
      checks := w.checks.map fun check =>
        if w.isDue time check then { check with status := .fired } else check
      reports := w.reports ++ fired }, fired)

theorem newCheck_due [Scheduler] {threshold : Duration} (h : Punctual threshold) (w : Watch)
    (connection timer : Nat) :
    (w.newCheck connection threshold timer).due = w.now + threshold.ceilMillis :=
  congrArg (w.now + ·) h

/-! ## Reading after writing -/

@[simp]
theorem phase_unarmed (w : Watch) : w.phase {} = .unarmed := rfl

theorem isDue_status {w : Watch} {time : Nat} {check : Check} (h : w.isDue time check = true) :
    check.status = .pending := by
  simp only [isDue, Bool.and_eq_true, decide_eq_true_eq] at h
  exact h.1.1

@[simp]
theorem setStatus_fields (w : Watch) (n : Nat) (status : CheckStatus) :
    (w.setStatus n status).now = w.now ∧ (w.setStatus n status).timers = w.timers ∧
      (w.setStatus n status).reports = w.reports :=
  ⟨rfl, rfl, rfl⟩

@[simp]
theorem cancel_fields (w : Watch) (d : Detector) :
    (w.cancel d).1.now = w.now ∧ (w.cancel d).1.timers = w.timers ∧
      (w.cancel d).1.reports = w.reports := by
  unfold cancel
  split
  · split <;> simp
  · simp

/-- An unarmed detector can be armed exactly on a timer that runs. -/
theorem arm_unarmed [Scheduler] (w : Watch) (connection : Nat) (threshold : Duration)
    (timer : Nat) :
    w.arm {} connection threshold timer =
      if w.isRunning timer then
        .ok ({ w with checks := w.checks.push (w.newCheck connection threshold timer) },
          ⟨some w.checks.next⟩)
      else .error .timerShutDown := by
  unfold arm isRunning
  rw [if_neg (by simp)]
  cases ht : w.timers.get? timer with
  | none => rfl
  | some t =>
    obtain ⟨reporter, shutDown⟩ := t
    cases shutDown <;> rfl

theorem arm_timers [Scheduler] {w w' : Watch} {d d' : Detector} {connection timer : Nat}
    {threshold : Duration} (h : w.arm d connection threshold timer = .ok (w', d')) :
    w'.timers = w.timers := by
  unfold arm at h
  split at h
  · cases h
  · split at h
    · cases h; rfl
    · cases h

/-- Cancelling moves a pending check to cancelled and leaves every other phase as it is. -/
theorem phase_cancel (w : Watch) (d : Detector) :
    (w.cancel d).1.phase d = if w.phase d = .armed then .cancelled else w.phase d := by
  unfold cancel
  by_cases h : w.phase d = .armed
  · rw [if_pos h, if_pos h]
    obtain ⟨_ | n⟩ := d
    · simp [phase] at h
    · cases hn : w.checks.get? n with
      | none => simp [phase, hn] at h
      | some check => simp [phase, setStatus, hn, CheckStatus.phase]
  · rw [if_neg h, if_neg h]

end Watch

end ConnLease.Leak
