import Mathlib.Data.List.Perm.Basic
import ConnLease.Proofs.Roster
import ConnLease.Proofs.Leak.Course

/-!
# No check is lost

Every check is pending, fired or cancelled. A pending check may become one of the others, and
nothing else ever changes. So the checks that were scheduled are as many as those that fired, those
that were cancelled and those that are pending; the checks that fired are those whose reports were
handed out; and each check is cancelled at most once, by the act that says it has cancelled it.

One lemma for each count says what one act adds to it; the laws of whole lists of steps follow by
induction, for every system that has a watch.
-/

namespace ConnLease.Leak

/-- What a check and its report agree on: connection, timer, threshold and time. -/
def Check.mark (check : Check) : Nat × Nat × Duration × Nat :=
  (check.connection, check.timer, check.threshold, check.due)

def Report.mark (r : Report) : Nat × Nat × Duration × Nat :=
  (r.connection, r.timer, r.threshold, r.time)

variable [Scheduler]

namespace Watch

def status? (w : Watch) (n : Nat) : Option CheckStatus := (w.checks.get? n).map (·.status)

/-- How many checks have a status. -/
def tally (w : Watch) (status : CheckStatus) : Nat :=
  w.checks.toList.countP (·.status = status)

def fired (w : Watch) : List Check := w.checks.toList.filter (·.status = .fired)

/-- The check that an act cancels. -/
def cancels? (w : Watch) : Act → Option Nat
  | .giveUp d => if w.phase d = .armed then d.check else none
  | _ => none

omit [Scheduler] in
theorem tally_partition (w : Watch) :
    w.tally .pending + w.tally .fired + w.tally .cancelled = w.checks.size := by
  have hlist : ∀ l : List Check, l.countP (·.status = .pending) + l.countP (·.status = .fired) +
      l.countP (·.status = .cancelled) = l.length := by
    intro l
    induction l with
    | nil => rfl
    | cons check l ih =>
      simp only [List.countP_cons, List.length_cons]
      cases check.status <;> simp <;> omega
  exact hlist w.checks.toList

omit [Scheduler] in
theorem length_fired (w : Watch) : w.fired.length = w.tally .fired :=
  List.countP_eq_length_filter.symm

/-! ## One act -/

theorem scheduled?_status {w : Watch} {a : Act} {check : Check} (h : w.scheduled? a = some check) :
    check.status = .pending := by
  cases a with
  | arm d connection threshold timer =>
    simp only [scheduled?] at h
    split at h
    · cases h
      rfl
    · cases h
  | _ => cases h

/-- A status is kept by an act, unless it is pending and becomes fired or cancelled. -/
theorem status?_act {w : Watch} {n : Nat} {s : CheckStatus} (h : w.status? n = some s) (a : Act) :
    ∃ s', (w.act a).status? n = some s' ∧
      (s' = s ∨ s = .pending ∧ (s' = .fired ∨ s' = .cancelled)) := by
  obtain ⟨check, hn, rfl⟩ := Option.map_eq_some_iff.1 h
  refine ⟨w.statusAfter a n check, by rw [status?, get?_checks_act_of_some hn]; rfl, ?_⟩
  unfold statusAfter
  split
  · rename_i hfires
    obtain ⟨-, -, hs, -⟩ := fires_iff.1 hfires
    exact .inr ⟨hs, .inl rfl⟩
  · split
    · rename_i hgiven
      exact .inr ⟨hgiven.2, .inr rfl⟩
    · exact .inl rfl

theorem cancels?_eq_some_iff {w : Watch} {a : Act} {n : Nat} : w.cancels? a = some n ↔
    w.status? n = some .pending ∧ (w.act a).status? n = some .cancelled := by
  constructor
  · intro h
    cases a with
    | giveUp d =>
      simp only [cancels?] at h
      split at h
      · rename_i hp
        obtain ⟨m, check, hd, hm, hs⟩ := phase_armed_iff.1 hp
        obtain rfl : m = n := Option.some.inj (hd.symm.trans h)
        have hafter : w.statusAfter (.giveUp d) m check = .cancelled := by
          simp [statusAfter, fires, Act.givesUp, hd, hs]
        refine ⟨by rw [status?, hm, Option.map_some, hs], ?_⟩
        rw [status?, get?_checks_act_of_some hm, Option.map_some, hafter]
      · cases h
    | _ => cases h
  · rintro ⟨hbefore, hafter⟩
    obtain ⟨check, hn, hs⟩ := Option.map_eq_some_iff.1 hbefore
    rw [status?, get?_checks_act_of_some hn, Option.map_some] at hafter
    have hcancelled : w.statusAfter a n check = .cancelled := Option.some.inj hafter
    unfold statusAfter at hcancelled
    split at hcancelled
    · cases hcancelled
    · split at hcancelled
      · rename_i hgiven
        cases a with
        | giveUp d =>
          have hd : d.check = some n := by simpa [Act.givesUp] using hgiven.1
          simp only [cancels?]
          rw [if_pos (phase_armed_iff.2 ⟨n, check, hd, hn, hs⟩), hd]
        | _ => cases hgiven.1
      · rw [hs] at hcancelled
        cases hcancelled

/-- A check is cancelled after an act if it was before, or if the act cancels it. -/
theorem status?_act_cancelled_iff {w : Watch} {a : Act} {n : Nat} :
    (w.act a).status? n = some .cancelled ↔
      w.status? n = some .cancelled ∨ w.cancels? a = some n := by
  constructor
  · intro h
    cases hs : w.status? n with
    | none =>
      have hn : w.checks.get? n = none := by simpa [status?] using hs
      rw [status?, get?_checks_act, hn] at h
      split at h
      · obtain ⟨check, hcheck, hcancelled⟩ := Option.map_eq_some_iff.1 h
        rw [scheduled?_status hcheck] at hcancelled
        cases hcancelled
      · cases h
    | some s =>
      obtain ⟨s', hs', hcases⟩ := status?_act hs a
      obtain rfl : s' = .cancelled := Option.some.inj (hs'.symm.trans h)
      rcases hcases with rfl | ⟨rfl, -⟩
      · exact .inl rfl
      · exact .inr (cancels?_eq_some_iff.2 ⟨hs, h⟩)
  · rintro (h | h)
    · obtain ⟨s', hs', rfl | ⟨hp, -⟩⟩ := status?_act h a
      · exact hs'
      · cases hp
    · exact (cancels?_eq_some_iff.1 h).2

omit [Scheduler] in
theorem cancel_snd_eq_true_iff {w : Watch} {d : Detector} :
    (w.cancel d).2 = true ↔ w.phase d = .armed := by
  unfold cancel
  by_cases hp : w.phase d = .armed
  · obtain ⟨n, -, hd, -⟩ := phase_armed_iff.1 hp
    simp [hp, hd]
  · simp [hp]

/-- Cancelling says yes exactly when it has moved a pending check to cancelled. -/
theorem cancel_snd_iff {w : Watch} {d : Detector} : (w.cancel d).2 = true ↔
    ∃ n, w.status? n = some .pending ∧ (w.cancel d).1.status? n = some .cancelled := by
  have hcancels : ∀ n, w.cancels? (.giveUp d) = some n ↔
      w.status? n = some .pending ∧ (w.cancel d).1.status? n = some .cancelled :=
    fun n => cancels?_eq_some_iff
  simp only [← hcancels, cancels?, cancel_snd_eq_true_iff]
  constructor
  · intro hp
    obtain ⟨n, -, hd, -⟩ := phase_armed_iff.1 hp
    exact ⟨n, by rw [if_pos hp, hd]⟩
  · rintro ⟨n, hn⟩
    split at hn
    · assumption
    · cases hn

/-! ## What an act adds to the counts -/

omit [Scheduler] in
/-- The checks that fire join those that have fired before. -/
theorem filter_fired_settle (w : Watch) (time : Nat) (l : List Check) :
    ((l.map fun check =>
        if w.isDue time check then { check with status := .fired } else check).filter
          (·.status = .fired)).map Check.mark |>.Perm
      ((l.filter (·.status = .fired)).map Check.mark ++
        (l.filter (w.isDue time)).map Check.mark) := by
  induction l with
  | nil => exact .nil
  | cons check l ih =>
    cases hdue : w.isDue time check with
    | true =>
      have hs := isDue_status hdue
      have hhead : ¬ check.status = .fired := by rw [hs]; exact fun e => by cases e
      simp only [List.map_cons, hdue, if_true, List.filter_cons, hhead, decide_true, decide_false,
        Bool.false_eq_true, if_false]
      exact (ih.cons _).trans List.perm_middle.symm
    | false =>
      cases hs : decide (check.status = .fired) with
      | true =>
        simp only [List.map_cons, hdue, List.filter_cons, hs, Bool.false_eq_true, if_false, if_true]
        exact ih.cons _
      | false =>
        simp only [List.map_cons, hdue, List.filter_cons, hs, Bool.false_eq_true, if_false]
        exact ih

/-- An act either leaves the checks alone, or schedules one, or cancels one, or lets time pass. -/
theorem act_cases (w : Watch) (a : Act) :
    (w.scheduled? a = none ∧ w.cancels? a = none ∧ w.handedOut a = [] ∧
      (w.act a).checks = w.checks) ∨
    (∃ check, check.status = .pending ∧ w.scheduled? a = some check ∧ w.cancels? a = none ∧
      w.handedOut a = [] ∧ (w.act a).checks = w.checks.push check) ∨
    (∃ n check, w.checks.get? n = some check ∧ check.status = .pending ∧
      w.scheduled? a = none ∧ w.cancels? a = some n ∧ w.handedOut a = [] ∧
      (w.act a).checks = w.checks.modify n fun check => { check with status := .cancelled }) ∨
    ∃ millis, a = .operate (.settle millis) := by
  cases a with
  | still => exact .inl ⟨rfl, rfl, rfl, rfl⟩
  | operate op =>
    cases op with
    | settle millis => exact .inr (.inr (.inr ⟨millis, rfl⟩))
    | _ => exact .inl ⟨rfl, rfl, rfl, operate_checks (by simp)⟩
  | arm d connection threshold timer =>
    rw [act_arm]
    simp only [scheduled?]
    split
    · exact .inr (.inl ⟨_, rfl, rfl, rfl, rfl, rfl⟩)
    · exact .inl ⟨rfl, rfl, rfl, rfl⟩
  | giveUp d =>
    simp only [cancels?, act]
    by_cases hp : w.phase d = .armed
    · obtain ⟨n, check, hd, hn, hs⟩ := phase_armed_iff.1 hp
      rw [if_pos hp]
      refine .inr (.inr (.inl ⟨n, check, hn, hs, rfl, hd, rfl, ?_⟩))
      unfold cancel
      rw [if_pos hp, hd]
      rfl
    · rw [if_neg hp]
      refine .inl ⟨rfl, rfl, rfl, ?_⟩
      unfold cancel
      rw [if_neg hp]

theorem size_checks_act_eq (w : Watch) (a : Act) :
    (w.act a).checks.size = w.checks.size + (w.scheduled? a).toList.length := by
  obtain ⟨hnew, -, -, hchecks⟩ | ⟨check, -, hnew, -, -, hchecks⟩ |
    ⟨n, check, -, -, hnew, -, -, hchecks⟩ | ⟨millis, rfl⟩ := act_cases w a
  · rw [hchecks, hnew]
    rfl
  · rw [hchecks, hnew, Roster.size_push]
    rfl
  · rw [hchecks, hnew, Roster.size_modify]
    rfl
  · exact List.length_map ..

theorem fired_act (w : Watch) (a : Act) : ((w.act a).fired.map Check.mark).Perm
    (w.fired.map Check.mark ++ (w.handedOut a).map Report.mark) := by
  obtain ⟨-, -, hnothing, hchecks⟩ | ⟨check, hs, -, -, hnothing, hchecks⟩ |
    ⟨n, check, hn, hs, -, -, hnothing, hchecks⟩ | ⟨millis, rfl⟩ := act_cases w a
  · rw [hnothing, fired, hchecks, List.map_nil, List.append_nil]
    exact .refl _
  · rw [hnothing, fired, hchecks]
    simp [Roster.push, hs, fired]
  · rw [hnothing, fired, hchecks, Roster.filter_modify hn (by simp [hs]) rfl, List.map_nil,
      List.append_nil]
    exact .refl _
  · have hmarks : (w.handedOut (.operate (.settle millis))).map Report.mark |>.Perm
        ((w.checks.toList.filter (w.isDue (w.now + millis))).map Check.mark) := by
      show ((List.map w.report _).map Report.mark).Perm _
      rw [List.map_map]
      exact (List.mergeSort_perm _ _).map Check.mark
    exact (filter_fired_settle w _ w.checks.toList).trans (hmarks.symm.append_left _)

end Watch

/-! ## Lists of steps -/

section Steps

variable {α : Type} {view : α → Watch × Act} {w w' : Watch} {steps : List α}

/-- What every act keeps is kept by a list of steps. -/
theorem Leads.keeps {P : Watch → Prop} (hP : ∀ w a, P w → P (w.act a))
    (h : Leads view w steps w') (hw : P w) : P w' := by
  induction steps generalizing w with
  | nil =>
    obtain rfl : w = w' := h
    exact hw
  | cons x steps ih =>
    obtain ⟨rfl, hrest⟩ := h
    exact ih hrest (hP _ _ hw)

/-- As many checks were added as steps scheduled one. -/
theorem Leads.size_eq (h : Leads view w steps w') : w'.checks.size =
    w.checks.size + steps.countP fun x => ((view x).1.scheduled? (view x).2).isSome := by
  induction steps generalizing w with
  | nil =>
    obtain rfl : w = w' := h
    rfl
  | cons x steps ih =>
    obtain ⟨rfl, hrest⟩ := h
    rw [ih hrest, Watch.size_checks_act_eq, List.countP_cons]
    cases (view x).1.scheduled? (view x).2 with
    | none => simp
    | some check =>
      simp
      omega

/-- The checks that have fired are those whose reports were handed out. -/
theorem Leads.fired_perm (h : Leads view w steps w')
    (hw : (w.fired.map Check.mark).Perm (w.reports.map Report.mark)) :
    (w'.fired.map Check.mark).Perm (w'.reports.map Report.mark) := by
  refine h.keeps (P := fun w => (w.fired.map Check.mark).Perm (w.reports.map Report.mark)) ?_ hw
  intro w a hperm
  rw [Watch.reports_act, List.map_append]
  exact (Watch.fired_act w a).trans (hperm.append_right _)

/-- A check that ends up cancelled was cancelled by one step, and any other check by none. -/
theorem Leads.cancelled_once (h : Leads view w steps w') (n : Nat) :
    (steps.countP fun x => (view x).1.cancels? (view x).2 = some n) =
      if w'.status? n = some .cancelled ∧ w.status? n ≠ some .cancelled then 1 else 0 := by
  induction steps generalizing w with
  | nil =>
    obtain rfl : w = w' := h
    simp
  | cons x steps ih =>
    obtain ⟨rfl, hrest⟩ := h
    have hact := Watch.status?_act_cancelled_iff (w := (view x).1) (a := (view x).2) (n := n)
    have hstays : ((view x).1.act (view x).2).status? n = some .cancelled →
        w'.status? n = some .cancelled :=
      hrest.keeps (P := fun w => w.status? n = some .cancelled)
        fun _ _ hw => Watch.status?_act_cancelled_iff.2 (.inl hw)
    rw [List.countP_cons, ih hrest]
    by_cases hcancels : (view x).1.cancels? (view x).2 = some n
    · have hpending := (Watch.cancels?_eq_some_iff.1 hcancels).1
      have hafter := hact.2 (.inr hcancels)
      simp [hcancels, hpending, hafter, hstays hafter]
    · have hsame : ((view x).1.act (view x).2).status? n = some .cancelled ↔
          (view x).1.status? n = some .cancelled := by simp [hact, hcancels]
      simp [hcancels, hsame]

end Steps

end ConnLease.Leak
