import Mathlib.Data.List.Perm.Basic
import ConnLease.Proofs.Leak.Checks

/-!
# The course of a leak check

A check that has been scheduled waits for the first step that lets time reach its due time. It is
disturbed when it is given up, and, unless it is heedless, when its timer is shut down.
`reportLaw_of_waiting` follows a check through any list of steps, of whatever system: it is reported
once if its time is reached before anything disturbs it, and never otherwise. A system comes in
through `view` only, which shows what watch a step finds and what the step does to it.
-/

namespace ConnLease.Leak

/-- An act gives up the check with the number `n`, or shuts its timer down while the check heeds
that. -/
def Act.Disturbs (a : Act) (n : Nat) (check : Check) : Prop :=
  a.givesUp n = true ∨ a = .operate (.shutDown check.timer) ∧ check.heedless = false

namespace Watch

/-! ## Waiting for a check -/

/-- The check with the number `n` is pending, and the timer that it is to fire on runs or is not
heeded. -/
structure Waiting (w : Watch) (n : Nat) (check : Check) : Prop where
  found : w.checks.get? n = some check
  pending : check.status = .pending
  ready : w.isRunning check.timer = true ∨ check.heedless = true

/-- The check with the number `n` has not fired and never will. -/
def Void (w : Watch) (n : Nat) : Prop :=
  ∃ check, w.checks.get? n = some check ∧
    (check.status = .cancelled ∨
      check.status = .pending ∧ w.isShutDown check.timer = true ∧ check.heedless = false)

def HasFired (w : Watch) (n : Nat) : Prop :=
  ∃ check, w.checks.get? n = some check ∧ check.status = .fired

theorem fires_iff {w : Watch} {a : Act} {check : Check} : w.fires a check = true ↔
    ∃ millis, a = .operate (.settle millis) ∧ check.status = .pending ∧
      check.due ≤ w.now + millis ∧
      (w.isRunning check.timer = true ∨ check.heedless = true) := by
  constructor
  · intro h
    unfold fires at h
    split at h
    · rename_i millis
      simp only [isDue, Bool.and_eq_true, Bool.or_eq_true, decide_eq_true_eq] at h
      exact ⟨millis, rfl, h.1.1, h.1.2, h.2⟩
    · cases h
  · rintro ⟨millis, rfl, hs, hdue, hr⟩
    simp [fires, isDue, hs, hdue, hr]

/-- An act lets time reach `due`. -/
def Reaches (w : Watch) (a : Act) (due : Nat) : Prop :=
  ∃ millis, a = .operate (.settle millis) ∧ due ≤ w.now + millis

theorem not_disturbs_of_reaches {w : Watch} {a : Act} {due : Nat} (h : w.Reaches a due)
    (n : Nat) (check : Check) : ¬ a.Disturbs n check := by
  obtain ⟨millis, rfl, -⟩ := h
  rintro (h | ⟨h, -⟩) <;> cases h

theorem reportOf_of_not_fires {w : Watch} {a : Act} {n : Nat} {check : Check}
    (hn : w.checks.get? n = some check) (h : w.fires a check = false) :
    w.reportOf a n = none := by
  unfold reportOf
  rw [hn, Option.bind_some, h, if_neg Bool.false_ne_true]

namespace Waiting

variable {w : Watch} {n : Nat} {check : Check} (h : w.Waiting n check)
include h

theorem running (hheeds : check.heedless = false) : w.isRunning check.timer = true :=
  h.ready.resolve_right (by simp [hheeds])

theorem fires_iff_reaches {a : Act} : w.fires a check = true ↔ w.Reaches a check.due := by
  rw [fires_iff]
  exact ⟨fun ⟨millis, ha, _, hdue, _⟩ => ⟨millis, ha, hdue⟩,
    fun ⟨millis, ha, hdue⟩ => ⟨millis, ha, h.pending, hdue, h.ready⟩⟩

theorem fires_of_not_reaches {a : Act} (ha : ¬ w.Reaches a check.due) :
    w.fires a check = false := by
  rw [← Bool.not_eq_true, h.fires_iff_reaches]
  exact ha

/-- A check whose time comes fires, with one report. -/
theorem fired [Scheduler] {a : Act} (ha : w.Reaches a check.due) :
    w.reportOf a n = some (w.report check) ∧ (w.act a).HasFired n := by
  have hfires := h.fires_iff_reaches.2 ha
  constructor
  · unfold reportOf
    rw [h.found, Option.bind_some, if_pos hfires]
  · refine ⟨_, get?_checks_act_of_some h.found a, ?_⟩
    simp [statusAfter, hfires]

/-- A check that is disturbed before its time is done with, and makes no report. -/
theorem void [Scheduler] {a : Act} (ha : a.Disturbs n check) :
    w.reportOf a n = none ∧ (w.act a).Void n := by
  have hfires := h.fires_of_not_reaches fun hr => not_disturbs_of_reaches hr n check ha
  refine ⟨reportOf_of_not_fires h.found hfires, _, get?_checks_act_of_some h.found a, ?_⟩
  rcases ha with ha | ⟨ha, hheeds⟩
  · left
    simp [statusAfter, hfires, ha, h.pending]
  · right
    have hkept : a.givesUp n = false := by rw [ha]; rfl
    refine ⟨?_, isShutDown_act a (.inr ⟨h.running hheeds, ha⟩), hheeds⟩
    simp [statusAfter, hfires, hkept, h.pending]

/-- Nothing else concerns the check. -/
theorem stays [Scheduler] {a : Act} (hr : ¬ w.Reaches a check.due) (hd : ¬ a.Disturbs n check) :
    w.reportOf a n = none ∧ (w.act a).Waiting n check := by
  have hfires := h.fires_of_not_reaches hr
  have hkept : a.givesUp n = false := by
    rw [← Bool.not_eq_true]
    exact fun hg => hd (.inl hg)
  refine ⟨reportOf_of_not_fires h.found hfires, ?_, h.pending, ?_⟩
  · rw [get?_checks_act_of_some h.found a]
    simp [statusAfter, hfires, hkept]
  · cases hheeds : check.heedless with
    | true => exact .inr rfl
    | false =>
      exact .inl (isRunning_act (h.running hheeds) fun ha => hd (.inr ⟨ha, hheeds⟩))

end Waiting

theorem Void.act [Scheduler] {w : Watch} {n : Nat} (h : w.Void n) (a : Act) :
    w.reportOf a n = none ∧ (w.act a).Void n := by
  obtain ⟨check, hn, hover⟩ := h
  have hfires : w.fires a check = false := by
    rw [← Bool.not_eq_true, fires_iff]
    rintro ⟨millis, -, hs, -, hr⟩
    rcases hover with hc | ⟨-, hdown, hheeds⟩
    · rw [hs] at hc
      cases hc
    · rw [not_isRunning_of_isShutDown hdown, hheeds] at hr
      simp at hr
  refine ⟨reportOf_of_not_fires hn hfires, _, get?_checks_act_of_some hn a, ?_⟩
  rcases hover with hc | ⟨hs, hdown, hheeds⟩
  · left
    simp [statusAfter, hfires, hc]
  · by_cases hg : a.givesUp n = true
    · left
      simp [statusAfter, hfires, hg, hs]
    · right
      exact ⟨by simp [statusAfter, hfires, hg, hs], isShutDown_act a (.inl hdown), hheeds⟩

theorem HasFired.act [Scheduler] {w : Watch} {n : Nat} (h : w.HasFired n) (a : Act) :
    w.reportOf a n = none ∧ (w.act a).HasFired n := by
  obtain ⟨check, hn, hs⟩ := h
  have hfires : w.fires a check = false := by
    rw [← Bool.not_eq_true, fires_iff]
    rintro ⟨millis, -, hp, -, -⟩
    rw [hs] at hp
    cases hp
  refine ⟨reportOf_of_not_fires hn hfires, _, get?_checks_act_of_some hn a, ?_⟩
  simp [statusAfter, hfires, hs]

theorem HasFired.phase {w : Watch} {n : Nat} (h : w.HasFired n) : w.phase ⟨some n⟩ = .fired := by
  obtain ⟨check, hn, hs⟩ := h
  rw [phase_eq rfl hn, hs]
  rfl

theorem Void.phase {w : Watch} {n : Nat} (h : w.Void n) : w.phase ⟨some n⟩ ≠ .fired := by
  obtain ⟨check, hn, hover⟩ := h
  rw [phase_eq rfl hn]
  rcases hover with hs | ⟨hs, -⟩
  · rw [hs]
    exact fun e => by cases e
  · rw [hs]
    exact fun e => by cases e

end Watch

/-! ## Delivery -/

/-- What a settling answers and logs: a notice of each report that its reporter can deliver, and the
events of the others. -/
structure Delivers (w : Watch) (millis : Nat) (reply : TimerReply) (events : List LogEvent) :
    Prop where
  answer : ∃ notices, reply = .notices notices ∧
    notices.Perm ((w.handedOut (.operate (.settle millis))).filterMap Report.notice?)
  logged : events = (w.handedOut (.operate (.settle millis))).flatMap Report.events

theorem delivers_settle (w : Watch) (millis : Nat) :
    Delivers w millis (w.operate (.settle millis)).2.1 (w.operate (.settle millis)).2.2 where
  answer := ⟨_, rfl, List.mergeSort_perm _ _⟩
  logged := rfl

/-- A report for a channel without a receiver is one event and no notice; one that is collected or
received is a notice and no event. -/
theorem delivery_of_report (r : Report) :
    (r.reporter = .channel false → r.notice? = none ∧ r.events = [.reportDropped r.connection]) ∧
      (r.reporter = .collect ∨ r.reporter = .channel true →
        r.notice?.isSome = true ∧ r.events = []) := by
  obtain ⟨time, timer, connection, threshold, reporter⟩ := r
  constructor
  · rintro rfl
    exact ⟨rfl, rfl⟩
  · rintro (rfl | rfl) <;> exact ⟨rfl, rfl⟩

/-! ## A check in the course of a system -/

section Course

variable {α : Type} (view : α → Watch × Act)

/-- The steps of a list come one after the other and lead from the watch `w` to the watch `w'`:
`view` shows the watch that a step finds and what the step does to it. -/
def Leads [Scheduler] (w : Watch) : List α → Watch → Prop
  | [], w' => w = w'
  | x :: steps, w' => (view x).1 = w ∧ Leads (w.act (view x).2) steps w'

/-- The reports of the check with the number `n` in a list of steps. -/
def reportsOf (n : Nat) (steps : List α) : List Report :=
  steps.filterMap fun x => (view x).1.reportOf (view x).2 n

/-- `x` is the first step that lets time reach `due`, and nothing disturbs the check before. -/
def FallsDue (disturbs : α → Prop) (due : Nat) (steps : List α) (x : α) : Prop :=
  ∃ calm after, steps = calm ++ x :: after ∧ (view x).1.Reaches (view x).2 due ∧
    ∀ y ∈ calm, ¬ (view y).1.Reaches (view y).2 due ∧ ¬ disturbs y

/-- What comes of a check with the number `n` in the steps that follow its arming and lead to the
watch `w'`. -/
structure ReportLaw (disturbs : α → Prop) (n : Nat) (check : Check) (steps : List α)
    (w' : Watch) : Prop where
  reported : ∀ x, FallsDue view disturbs check.due steps x →
    reportsOf view n steps = [(view x).1.report check] ∧ w'.phase ⟨some n⟩ = .fired
  silent : (¬ ∃ x, FallsDue view disturbs check.due steps x) →
    reportsOf view n steps = [] ∧ w'.phase ⟨some n⟩ ≠ .fired

variable {view}

theorem reportsOf_cons (n : Nat) (x : α) (steps : List α) :
    reportsOf view n (x :: steps) =
      ((view x).1.reportOf (view x).2 n).toList ++ reportsOf view n steps := by
  unfold reportsOf
  rw [List.filterMap_cons]
  cases (view x).1.reportOf (view x).2 n <;> rfl

theorem Leads.size_le [Scheduler] {w w' : Watch} {steps : List α} (h : Leads view w steps w') :
    w.checks.size ≤ w'.checks.size := by
  induction steps generalizing w with
  | nil =>
    obtain rfl : w = w' := h
    exact Nat.le_refl _
  | cons x steps ih =>
    obtain ⟨rfl, hrest⟩ := h
    exact Nat.le_trans (Watch.size_checks_act _ _) (ih hrest)

/-- Whatever reporters are handed in a list of steps is a report of one of the checks, and each of
their reports is handed out. -/
theorem Leads.reports_perm [Scheduler] {w w' : Watch} {steps : List α} (h : Leads view w steps w') :
    w'.reports.Perm
      (w.reports ++ (List.range w'.checks.size).flatMap (reportsOf view · steps)) := by
  induction steps generalizing w with
  | nil =>
    obtain rfl : w = w' := h
    have hnone : (List.range w.checks.size).flatMap (reportsOf view · ([] : List α)) = [] :=
      List.flatMap_eq_nil_iff.2 fun _ _ => rfl
    rw [hnone, List.append_nil]
  | cons x steps ih =>
    obtain ⟨rfl, hrest⟩ := h
    let numbers := List.range w'.checks.size
    let now : Nat → List Report := fun n => ((view x).1.reportOf (view x).2 n).toList
    let later : Nat → List Report := (reportsOf view · steps)
    have hsize : (view x).1.checks.size ≤ w'.checks.size :=
      Nat.le_trans (Watch.size_checks_act _ _) hrest.size_le
    have hnow : ((view x).1.handedOut (view x).2).Perm (numbers.flatMap now) := by
      have hperm := Watch.handedOut_perm hsize (view x).2
      rw [List.filterMap_eq_flatMap_toList] at hperm
      exact hperm
    have hboth : (numbers.flatMap fun n => now n ++ later n) =
        numbers.flatMap (reportsOf view · (x :: steps)) := by
      simp only [reportsOf_cons, now, later]
    have hlater := ih hrest
    rw [Watch.reports_act, List.append_assoc] at hlater
    refine hlater.trans (.append_left _ ?_)
    rw [← hboth]
    exact (hnow.append_right _).trans (List.flatMap_append_perm numbers now later)

theorem fallsDue_of_reaches {disturbs : α → Prop} {due : Nat} {x y : α} {steps : List α}
    (hx : (view x).1.Reaches (view x).2 due) :
    FallsDue view disturbs due (x :: steps) y ↔ y = x := by
  constructor
  · rintro ⟨calm, after, hsplit, -, hcalm⟩
    rcases calm with _ | ⟨z, calm⟩
    · exact (List.cons.inj hsplit).1.symm
    · obtain ⟨rfl, -⟩ := List.cons.inj hsplit
      exact absurd hx (hcalm x (List.mem_cons_self ..)).1
  · rintro rfl
    exact ⟨[], steps, rfl, hx, by simp⟩

theorem not_fallsDue_of_disturbs {disturbs : α → Prop} {due : Nat} {x y : α} {steps : List α}
    (hx : disturbs x) (hr : ¬ (view x).1.Reaches (view x).2 due) :
    ¬ FallsDue view disturbs due (x :: steps) y := by
  rintro ⟨calm, after, hsplit, hy, hcalm⟩
  rcases calm with _ | ⟨z, calm⟩
  · obtain ⟨rfl, -⟩ := List.cons.inj hsplit
    exact hr hy
  · obtain ⟨rfl, -⟩ := List.cons.inj hsplit
    exact (hcalm x (List.mem_cons_self ..)).2 hx

theorem fallsDue_cons {disturbs : α → Prop} {due : Nat} {x y : α} {steps : List α}
    (hx : ¬ disturbs x) (hr : ¬ (view x).1.Reaches (view x).2 due) :
    FallsDue view disturbs due (x :: steps) y ↔ FallsDue view disturbs due steps y := by
  constructor
  · rintro ⟨calm, after, hsplit, hy, hcalm⟩
    rcases calm with _ | ⟨z, calm⟩
    · obtain ⟨rfl, -⟩ := List.cons.inj hsplit
      exact absurd hy hr
    · obtain ⟨rfl, rfl⟩ := List.cons.inj hsplit
      exact ⟨calm, after, rfl, hy, fun z hz => hcalm z (List.mem_cons_of_mem _ hz)⟩
  · rintro ⟨calm, after, rfl, hy, hcalm⟩
    refine ⟨x :: calm, after, rfl, hy, ?_⟩
    intro z hz
    rcases List.mem_cons.1 hz with rfl | hz
    · exact ⟨hr, hx⟩
    · exact hcalm z hz

/-- What holds of a watch for good, and lets the check make no report. -/
theorem leads_of_kept [Scheduler] {P : Watch → Prop} {n : Nat} {w w' : Watch} {steps : List α}
    (hsteps : Leads view w steps w') (hw : P w)
    (hP : ∀ w a, P w → w.reportOf a n = none ∧ P (w.act a)) :
    reportsOf view n steps = [] ∧ P w' := by
  induction steps generalizing w with
  | nil =>
    obtain rfl : w = w' := hsteps
    exact ⟨rfl, hw⟩
  | cons x steps ih =>
    obtain ⟨rfl, hrest⟩ := hsteps
    obtain ⟨hnone, hkept⟩ := hP _ (view x).2 hw
    obtain ⟨hreports, hend⟩ := ih hrest hkept
    rw [reportsOf_cons, hnone, hreports]
    exact ⟨rfl, hend⟩

/-- A check that is waited for is reported once, at the first step that lets time reach its due
time, unless something disturbs it before; then it is never reported. -/
theorem reportLaw_of_waiting [Scheduler] {disturbs : α → Prop} {n : Nat} {check : Check}
    {w w' : Watch} {steps : List α} (hsteps : Leads view w steps w') (hw : w.Waiting n check)
    (hdisturbs : ∀ x ∈ steps, (view x).1.Waiting n check →
      (disturbs x ↔ (view x).2.Disturbs n check)) :
    ReportLaw view disturbs n check steps w' := by
  induction steps generalizing w with
  | nil =>
    obtain rfl : w = w' := hsteps
    have hpending : w.phase ⟨some n⟩ ≠ .fired := by
      rw [Watch.phase_eq rfl hw.found, hw.pending]
      exact fun e => by cases e
    refine ⟨?_, fun _ => ⟨rfl, hpending⟩⟩
    rintro x ⟨calm, after, hsplit, -⟩
    cases calm <;> cases hsplit
  | cons x steps ih =>
    obtain ⟨rfl, hrest⟩ := hsteps
    have hx := hdisturbs x (List.mem_cons_self ..) hw
    by_cases hr : (view x).1.Reaches (view x).2 check.due
    · obtain ⟨hreport, hfired⟩ := hw.fired hr
      obtain ⟨hnone, hend⟩ := leads_of_kept (P := (·.HasFired n)) hrest hfired
        fun _ a h => h.act a
      have hreports : reportsOf view n (x :: steps) = [(view x).1.report check] := by
        rw [reportsOf_cons, hreport, hnone]
        rfl
      constructor
      · intro y hy
        obtain rfl := (fallsDue_of_reaches hr).1 hy
        exact ⟨hreports, hend.phase⟩
      · intro hnever
        exact absurd ⟨x, (fallsDue_of_reaches hr).2 rfl⟩ hnever
    · by_cases hd : disturbs x
      · obtain ⟨hreport, hvoid⟩ := hw.void (hx.1 hd)
        obtain ⟨hnone, hend⟩ := leads_of_kept (P := (·.Void n)) hrest hvoid
          fun _ a h => h.act a
        refine ⟨fun y hy => absurd hy (not_fallsDue_of_disturbs hd hr), fun _ => ⟨?_, hend.phase⟩⟩
        rw [reportsOf_cons, hreport, hnone]
        rfl
      · obtain ⟨hreport, hstays⟩ := hw.stays hr fun h => hd (hx.2 h)
        have hlaw := ih hrest hstays fun y hy => hdisturbs y (List.mem_cons_of_mem _ hy)
        have hreports : reportsOf view n (x :: steps) = reportsOf view n steps := by
          rw [reportsOf_cons, hreport]
          rfl
        constructor
        · intro y hy
          rw [hreports]
          exact hlaw.reported y ((fallsDue_cons hd hr).1 hy)
        · intro hnever
          rw [hreports]
          exact hlaw.silent fun ⟨y, hy⟩ => hnever ⟨y, (fallsDue_cons hd hr).2 hy⟩

end Course

end ConnLease.Leak
