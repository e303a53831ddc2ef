import ConnLease.Leak.Clockwork

/-!
# What becomes of a leak check

Whatever has a watch acts on it in four ways only: it operates the timers, arms a detector, gives up
the check of a detector, or leaves the watch alone. Under every act a check keeps its record but for
the status: a pending check fires when the watch settles at or after its due time, if its timer runs
or it is heedless of that, it is cancelled when a detector that holds it gives it up, and nothing
else moves it.
-/

namespace ConnLease.Leak

/-- What a step of a system does to its watch. -/
inductive Act where
  | still
  | operate (op : TimerOp)
  | arm (d : Detector) (connection : Nat) (threshold : Duration) (timer : Nat)
  /-- Cancel the check of a detector, or reset the detector. -/
  | giveUp (d : Detector)
deriving Repr, DecidableEq

/-- Whether an act gives up the check with the number `n`. -/
def Act.givesUp (a : Act) (n : Nat) : Bool :=
  match a with
  | .giveUp d => d.check == some n
  | _ => false

theorem CheckStatus.phase_armed_iff {s : CheckStatus} : s.phase = .armed ↔ s = .pending := by
  cases s <;> simp [CheckStatus.phase]

namespace Watch

/-- A refused arming changes nothing. -/
def act [Scheduler] (w : Watch) : Act → Watch
  | .still => w
  | .operate op => (w.operate op).1
  | .arm d connection threshold timer =>
    match w.arm d connection threshold timer with
    | .ok (armed, _) => armed
    | .error _ => w
  | .giveUp d => (w.cancel d).1

/-- What arming needs and what it does. -/
theorem arm_eq_ok_iff [Scheduler] {w w' : Watch} {d d' : Detector} {connection timer : Nat}
    {threshold : Duration} :
    w.arm d connection threshold timer = .ok (w', d') ↔
      w.phase d = .unarmed ∧ w.isRunning timer = true ∧ d' = ⟨some w.checks.next⟩ ∧
        w' = { w with checks := w.checks.push (w.newCheck connection threshold timer) } := by
  unfold arm isRunning
  by_cases hp : w.phase d = .unarmed
  · rw [if_neg (not_not_intro hp)]
    cases ht : w.timers.get? timer with
    | none => simp
    | some t =>
      obtain ⟨reporter, shutDown⟩ := t
      cases shutDown
      · simp only [Except.ok.injEq, Prod.mk.injEq, Bool.not_false, true_and, hp]
        exact ⟨fun h => ⟨h.2.symm, h.1.symm⟩, fun h => ⟨h.2.symm, h.1.symm⟩⟩
      · simp
  · rw [if_pos hp]
    simp [hp]

/-! ## The phase of a detector -/

theorem phase_eq {w : Watch} {d : Detector} {n : Nat} {check : Check} (hd : d.check = some n)
    (hn : w.checks.get? n = some check) : w.phase d = check.status.phase := by
  unfold phase
  rw [hd, Option.bind_some, hn]

theorem phase_armed_iff {w : Watch} {d : Detector} : w.phase d = .armed ↔
    ∃ n check, d.check = some n ∧ w.checks.get? n = some check ∧ check.status = .pending := by
  constructor
  · intro h
    unfold phase at h
    split at h
    · rename_i check hcheck
      obtain ⟨n, hd, hn⟩ := Option.bind_eq_some_iff.1 hcheck
      exact ⟨n, check, hd, hn, CheckStatus.phase_armed_iff.1 h⟩
    · cases h
  · rintro ⟨n, check, hd, hn, hs⟩
    rw [phase_eq hd hn, CheckStatus.phase_armed_iff]
    exact hs

/-! ## One check under one act -/

/-- Whether a check fires under an act. -/
def fires (w : Watch) (a : Act) (check : Check) : Bool :=
  match a with
  | .operate (.settle millis) => w.isDue (w.now + millis) check
  | _ => false

/-- The status of the check with the number `n` after an act. -/
def statusAfter (w : Watch) (a : Act) (n : Nat) (check : Check) : CheckStatus :=
  if w.fires a check then .fired
  else if a.givesUp n ∧ check.status = .pending then .cancelled
  else check.status

/-- The check that an act schedules. -/
def scheduled? [Scheduler] (w : Watch) : Act → Option Check
  | .arm d connection threshold timer =>
    if w.phase d = .unarmed ∧ w.isRunning timer = true then
      some (w.newCheck connection threshold timer)
    else none
  | _ => none

/-- The report that the check with the number `n` makes under an act. -/
def reportOf (w : Watch) (a : Act) (n : Nat) : Option Report :=
  (w.checks.get? n).bind fun check => if w.fires a check then some (w.report check) else none

theorem act_arm [Scheduler] (w : Watch) (d : Detector) (connection : Nat) (threshold : Duration)
    (timer : Nat) :
    w.act (.arm d connection threshold timer) =
      if w.phase d = .unarmed ∧ w.isRunning timer = true then
        { w with checks := w.checks.push (w.newCheck connection threshold timer) }
      else w := by
  simp only [act]
  cases ha : w.arm d connection threshold timer with
  | ok armed =>
    obtain ⟨hp, hr, -, hw⟩ := arm_eq_ok_iff.1 ha
    rw [if_pos ⟨hp, hr⟩]
    exact hw
  | error e =>
    rw [if_neg]
    rintro ⟨hp, hr⟩
    have hok : w.arm d connection threshold timer = .ok (_, _) :=
      arm_eq_ok_iff.2 ⟨hp, hr, rfl, rfl⟩
    rw [ha] at hok
    cases hok

theorem operate_checks {w : Watch} {op : TimerOp} (hop : ∀ millis, op ≠ .settle millis) :
    (w.operate op).1.checks = w.checks := by
  cases op with
  | settle millis => exact absurd rfl (hop millis)
  | newTimer reporter => rfl
  | shutDown timer | inspect timer | closeChannel timer =>
    simp only [operate]
    split <;> rfl

theorem get?_checks_cancel (w : Watch) (d : Detector) (n : Nat) :
    (w.cancel d).1.checks.get? n = (w.checks.get? n).map fun check =>
      { check with status :=
          if d.check = some n ∧ check.status = .pending then .cancelled else check.status } := by
  by_cases hp : w.phase d = .armed
  · obtain ⟨m, held, hd, hm, hs⟩ := phase_armed_iff.1 hp
    have hcancel : (w.cancel d).1 = w.setStatus m .cancelled := by
      unfold cancel
      rw [if_pos hp, hd]
    rw [hcancel, hd]
    simp only [setStatus, Roster.get?_modify]
    by_cases hn : n = m
    · subst hn
      rw [hm]
      simp [hs]
    · have hmn : ¬ m = n := fun e => hn e.symm
      cases w.checks.get? n <;> simp [hn, hmn]
  · have hcancel : (w.cancel d).1 = w := by
      unfold cancel
      rw [if_neg hp]
    rw [hcancel]
    cases hn : w.checks.get? n with
    | none => rfl
    | some check =>
      have hstays : ¬ (d.check = some n ∧ check.status = .pending) := by
        rintro ⟨hd, hs⟩
        exact hp (phase_armed_iff.2 ⟨n, check, hd, hn, hs⟩)
      rw [Option.map_some, if_neg hstays]

theorem get?_checks_settle (w : Watch) (millis n : Nat) :
    (w.settle millis).1.checks.get? n = (w.checks.get? n).map fun check =>
      { check with status :=
          if w.isDue (w.now + millis) check then .fired else check.status } := by
  have hget : (w.settle millis).1.checks.get? n = (w.checks.get? n).map fun check =>
      if w.isDue (w.now + millis) check then { check with status := .fired } else check :=
    Roster.get?_map ..
  rw [hget]
  cases w.checks.get? n with
  | none => rfl
  | some check => cases hdue : w.isDue (w.now + millis) check <;> simp [hdue]

theorem get?_checks_act_of_not_arm [Scheduler] (w : Watch) {a : Act}
    (ha : ∀ d connection threshold timer, a ≠ .arm d connection threshold timer) (n : Nat) :
    (w.act a).checks.get? n =
      (w.checks.get? n).map fun check => { check with status := w.statusAfter a n check } := by
  cases a with
  | still => cases hn : w.checks.get? n <;> simp [act, statusAfter, fires, Act.givesUp, hn]
  | giveUp d => simpa [act, statusAfter, fires, Act.givesUp] using get?_checks_cancel w d n
  | arm d connection threshold timer => exact absurd rfl (ha d connection threshold timer)
  | operate op =>
    cases op with
    | settle millis =>
      simpa [act, operate, statusAfter, fires, Act.givesUp] using get?_checks_settle w millis n
    | _ =>
      simp only [act]
      rw [operate_checks (by simp)]
      cases w.checks.get? n <;> simp [statusAfter, fires, Act.givesUp]

/-- An act changes a check at most in its status, and adds at most one check. -/
theorem get?_checks_act [Scheduler] (w : Watch) (a : Act) (n : Nat) :
    (w.act a).checks.get? n =
      if n = w.checks.next then w.scheduled? a
      else (w.checks.get? n).map fun check => { check with status := w.statusAfter a n check } := by
  have hnext : n = w.checks.next → w.checks.get? n = none := by
    rintro rfl
    exact Roster.get?_next _
  cases a with
  | arm d connection threshold timer =>
    rw [act_arm]
    simp only [scheduled?]
    split
    · rw [Roster.get?_push]
      split
      · rfl
      · cases w.checks.get? n <;> simp [statusAfter, fires, Act.givesUp]
    · split
      · rename_i hn
        exact hnext hn
      · cases w.checks.get? n <;> simp [statusAfter, fires, Act.givesUp]
  | _ =>
    rw [get?_checks_act_of_not_arm w (by simp)]
    split
    · rename_i hn
      rw [hnext hn]
      rfl
    · rfl

/-- Checks keep their numbers. -/
theorem get?_checks_act_of_some [Scheduler] {w : Watch} {n : Nat} {check : Check}
    (hn : w.checks.get? n = some check) (a : Act) :
    (w.act a).checks.get? n = some { check with status := w.statusAfter a n check } := by
  have hold : n ≠ w.checks.next := Roster.ne_next_of_get? hn
  rw [get?_checks_act, if_neg hold, hn]
  rfl

/-! ## Timers -/

def isShutDown (w : Watch) (timer : Nat) : Bool := (w.timers.get? timer).any (·.shutDown)

theorem isRunning_eq {w : Watch} {timer : Nat} {t : Timer} (ht : w.timers.get? timer = some t) :
    w.isRunning timer = !t.shutDown := by
  unfold isRunning
  rw [ht]

theorem timers_act_of_still [Scheduler] {w : Watch} {a : Act} (ha : ∀ op, a ≠ .operate op) :
    (w.act a).timers = w.timers := by
  cases a with
  | still => rfl
  | operate op => exact absurd rfl (ha op)
  | arm d connection threshold timer =>
    rw [act_arm]
    split <;> rfl
  | giveUp d => exact (cancel_fields w d).2.1

/-- A timer that is there is shut down by the operation that says so, and by no other. -/
theorem shutDown_operate {w : Watch} {timer : Nat} {t : Timer}
    (ht : w.timers.get? timer = some t) (op : TimerOp) :
    ∃ t', (w.operate op).1.timers.get? timer = some t' ∧
      t'.shutDown = (t.shutDown || decide (op = .shutDown timer)) := by
  cases op with
  | newTimer reporter =>
    have hold : timer ≠ w.timers.next := Roster.ne_next_of_get? ht
    refine ⟨t, ?_, by simp⟩
    simp only [operate, Roster.get?_push]
    rw [if_neg hold, ht]
  | shutDown other =>
    simp only [operate]
    cases ho : w.timers.get? other with
    | none =>
      have hne : ¬ other = timer := by rintro rfl; rw [ht] at ho; cases ho
      exact ⟨t, ht, by simp [hne]⟩
    | some o =>
      simp only [Roster.get?_modify]
      by_cases hne : timer = other
      · subst hne
        exact ⟨_, by rw [if_pos rfl, ht]; rfl, by simp⟩
      · have hne' : ¬ other = timer := fun e => hne e.symm
        exact ⟨t, by rw [if_neg hne, ht], by simp [hne']⟩
  | inspect other =>
    refine ⟨t, ?_, by simp⟩
    simp only [operate]
    split <;> exact ht
  | closeChannel other =>
    simp only [operate]
    cases ho : w.timers.get? other with
    | none => exact ⟨t, ht, by simp⟩
    | some o =>
      simp only [Roster.get?_modify]
      by_cases hne : timer = other
      · subst hne
        obtain rfl : t = o := Option.some.inj (ht.symm.trans ho)
        exact ⟨_, by rw [if_pos rfl, ht]; rfl, by simp⟩
      · exact ⟨t, by rw [if_neg hne, ht], by simp⟩
  | settle millis => exact ⟨t, ht, by simp⟩

/-- A timer that is there runs until it is shut down. -/
theorem shutDown_act [Scheduler] {w : Watch} {timer : Nat} {t : Timer}
    (ht : w.timers.get? timer = some t) (a : Act) : ∃ t', (w.act a).timers.get? timer = some t' ∧
      t'.shutDown = (t.shutDown || decide (a = .operate (.shutDown timer))) := by
  by_cases ha : ∃ op, a = .operate op
  · obtain ⟨op, rfl⟩ := ha
    simpa only [act, Act.operate.injEq] using shutDown_operate ht op
  · have hsame : (w.act a).timers = w.timers := timers_act_of_still fun op h => ha ⟨op, h⟩
    have hne : a ≠ .operate (.shutDown timer) := fun h => ha ⟨_, h⟩
    exact ⟨t, by rw [hsame, ht], by simp [hne]⟩

theorem isRunning_act [Scheduler] {w : Watch} {timer : Nat} (h : w.isRunning timer = true) {a : Act}
    (ha : a ≠ .operate (.shutDown timer)) : (w.act a).isRunning timer = true := by
  cases ht : w.timers.get? timer with
  | none => simp [isRunning, ht] at h
  | some t =>
    obtain ⟨t', ht', hdown⟩ := shutDown_act ht a
    rw [isRunning_eq ht, Bool.not_eq_true'] at h
    rw [isRunning_eq ht', hdown, h]
    simp [ha]

theorem isShutDown_act [Scheduler] {w : Watch} {timer : Nat} (a : Act)
    (h : w.isShutDown timer = true ∨ w.isRunning timer = true ∧ a = .operate (.shutDown timer)) :
    (w.act a).isShutDown timer = true := by
  cases ht : w.timers.get? timer with
  | none => simp [isShutDown, isRunning, ht] at h
  | some t =>
    obtain ⟨t', ht', hdown⟩ := shutDown_act ht a
    unfold isShutDown at h ⊢
    rw [ht', Option.any_some, hdown]
    rcases h with h | ⟨-, h⟩
    · rw [ht, Option.any_some] at h
      rw [h, Bool.true_or]
    · simp [h]

theorem not_isRunning_of_isShutDown {w : Watch} {timer : Nat} (h : w.isShutDown timer = true) :
    w.isRunning timer = false := by
  unfold isShutDown at h
  cases ht : w.timers.get? timer with
  | none => rw [ht] at h; cases h
  | some t =>
    rw [ht, Option.any_some] at h
    rw [isRunning_eq ht, h]
    rfl

/-! ## Reports come from checks -/

theorem filterMap_range_getElem? {α β : Type} (g : α → Option β) {l : List α} {N : Nat}
    (hN : l.length ≤ N) : (List.range N).filterMap (fun n => l[n]?.bind g) = l.filterMap g := by
  induction l generalizing N with
  | nil => simp
  | cons a l ih =>
    obtain ⟨N, rfl⟩ : ∃ M, N = M + 1 := ⟨N - 1, by simp only [List.length_cons] at hN; omega⟩
    rw [List.range_succ_eq_map, List.filterMap_cons, List.filterMap_map, List.filterMap_cons]
    simp only [List.getElem?_cons_zero, Option.bind_some]
    have htail : (fun n => (a :: l)[n]?.bind g) ∘ Nat.succ = fun n => l[n]?.bind g := by
      funext n
      simp
    rw [htail, ih (Nat.le_of_succ_le_succ hN)]

/-- What the reporters are handed under an act. -/
def handedOut (w : Watch) : Act → List Report
  | .operate (.settle millis) => w.firing (w.now + millis)
  | _ => []

/-- Everything that is handed out is one report for each check that fires. -/
theorem handedOut_perm {w : Watch} {N : Nat} (hN : w.checks.size ≤ N) (a : Act) :
    (w.handedOut a).Perm ((List.range N).filterMap (w.reportOf a)) := by
  have hget : ∀ n, w.checks.get? n = w.checks.toList[n]? := by
    intro n
    simp [Roster.get?]
  have hfires : (List.range N).filterMap (w.reportOf a) =
      (w.checks.toList.filter (w.fires a)).map w.report := by
    unfold reportOf
    simp only [hget]
    rw [filterMap_range_getElem? _ hN, ← List.filterMap_eq_map, List.filterMap_filter]
    rfl
  have hstill : (∀ millis, a ≠ .operate (.settle millis)) → w.handedOut a = [] ∧
      w.checks.toList.filter (w.fires a) = [] := by
    intro ha
    constructor
    · unfold handedOut
      split
      · exact absurd rfl (ha _)
      · rfl
    · rw [List.filter_eq_nil_iff]
      intro check _
      unfold fires
      split
      · exact absurd rfl (ha _)
      · exact Bool.false_ne_true
  rw [hfires]
  by_cases ha : ∃ millis, a = .operate (.settle millis)
  · obtain ⟨millis, rfl⟩ := ha
    exact (List.mergeSort_perm _ _).map w.report
  · obtain ⟨hnothing, hnone⟩ := hstill fun millis h => ha ⟨millis, h⟩
    rw [hnothing, hnone]
    exact .refl _

theorem exists_check_of_mem_handedOut {w : Watch} {a : Act} {r : Report}
    (h : r ∈ w.handedOut a) :
    ∃ n check, w.checks.get? n = some check ∧ w.fires a check = true ∧ r = w.report check := by
  obtain ⟨n, -, hn⟩ := List.mem_filterMap.1 ((handedOut_perm (Nat.le_refl _) a).mem_iff.1 h)
  obtain ⟨check, hcheck, hfires⟩ := Option.bind_eq_some_iff.1 hn
  split at hfires
  · rename_i hf
    exact ⟨n, check, hcheck, hf, (Option.some.inj hfires).symm⟩
  · cases hfires

/-- Checks are not taken away. -/
theorem size_checks_act [Scheduler] (w : Watch) (a : Act) :
    w.checks.size ≤ (w.act a).checks.size := by
  rcases Nat.eq_zero_or_pos w.checks.size with hsize | hsize
  · omega
  · have hlast : w.checks.size - 1 < w.checks.toList.length := by
      show w.checks.size - 1 < w.checks.size
      omega
    have hsome : w.checks.get? (w.checks.size - 1) = some w.checks.toList[w.checks.size - 1] := by
      simp [Roster.get?, List.getElem?_eq_getElem hlast]
    have hkept := Roster.lt_next_of_get? (get?_checks_act_of_some hsome a)
    unfold Roster.next at hkept
    omega

/-- Reporters are handed nothing else, and what they were handed is not taken back. -/
theorem reports_act [Scheduler] (w : Watch) (a : Act) :
    (w.act a).reports = w.reports ++ w.handedOut a := by
  cases a with
  | still => exact (List.append_nil _).symm
  | operate op =>
    cases op with
    | settle millis => rfl
    | newTimer reporter => exact (List.append_nil _).symm
    | shutDown timer | inspect timer | closeChannel timer =>
      simp only [act, operate, handedOut, List.append_nil]
      split <;> rfl
  | arm d connection threshold timer =>
    rw [act_arm]
    split <;> exact (List.append_nil _).symm
  | giveUp d =>
    simp only [act, handedOut, List.append_nil]
    exact (cancel_fields w d).2.2

end Watch

end ConnLease.Leak
