import ConnLease.Leak.Bench
import ConnLease.Proofs.Leak.Course

/-!
# Reports of a bench

The check that a detector of a bench was armed with, in the steps that follow. A detector holds the
number of its check, and no other detector comes to hold it, so the check is disturbed only by
cancelling or resetting its own detector and, unless it is heedless, by shutting its timer down. A
detector that is replaced leaves its check behind; nothing but the timer can disturb it then.
-/

namespace ConnLease.Leak.Bench

variable [Scheduler]

def run (b : Bench) (ops : List Op) : Bench := ops.foldl (fun b op => (b.step op).1.1) b

/-- The steps of a run, each with the bench that it finds. -/
def course (b : Bench) : List Op → List (Bench × Op)
  | [] => []
  | op :: ops => (b, op) :: (b.step op).1.1.course ops

/-! ## What a step does to the watch -/

def act (b : Bench) : Op → Act
  | .timer op => .operate op
  | .arm i connection threshold timer =>
    match b.detectors.get? i with
    | some d => .arm d connection threshold timer
    | none => .still
  | .cancel i | .reset i =>
    match b.detectors.get? i with
    | some d => .giveUp d
    | none => .still
  | _ => .still

/-- The watch that a step finds and what the step does to it. -/
def sight (x : Bench × Op) : Watch × Act := (x.1.watch, x.1.act x.2)

omit [Scheduler] in
theorem not_isRunning_of_none {w : Watch} {timer : Nat} (h : w.timers.get? timer = none) :
    w.isRunning timer = false := by
  unfold Watch.isRunning
  rw [h]

theorem watch_arm (b : Bench) (i connection : Nat) (threshold : Duration) (timer : Nat) :
    (b.arm i connection threshold timer).1.watch =
      b.watch.act (b.act (.arm i connection threshold timer)) := by
  unfold arm onDetector
  simp only [act]
  cases b.detectors.get? i with
  | none => rfl
  | some d =>
    dsimp only
    split
    · rename_i hnone
      have hstopped : b.watch.isRunning timer = false :=
        not_isRunning_of_none (Option.isNone_iff_eq_none.1 hnone)
      rw [Watch.act_arm, if_neg (by simp [hstopped])]
    · simp only [Watch.act]
      cases b.watch.arm d connection threshold timer <;> rfl

theorem watch_step (b : Bench) (op : Op) : (b.step op).1.1.watch = b.watch.act (b.act op) := by
  cases op with
  | timer op => rfl
  | newDetector => rfl
  | arm i connection threshold timer => exact watch_arm b i connection threshold timer
  | cancel i | reset i | hasPlace i | isFinal i | replace i =>
    simp only [step, act, onDetector]
    cases b.detectors.get? i <;> rfl

theorem leads_course (b : Bench) (ops : List Op) :
    Leads sight b.watch (b.course ops) (b.run ops).watch := by
  induction ops generalizing b with
  | nil => rfl
  | cons op ops ih =>
    have hrest := ih (b.step op).1.1
    rw [watch_step] at hrest
    exact ⟨rfl, hrest⟩

/-! ## Detectors and their checks -/

omit [Scheduler] in
/-- A fresh detector in the place `i` holds no check. -/
theorem get?_detectors_fresh {b : Bench} {i j n : Nat}
    (h : (b.detectors.modify i fun _ => {}).get? j = some ⟨some n⟩) :
    b.detectors.get? j = some ⟨some n⟩ := by
  rw [Roster.get?_modify] at h
  split at h
  · cases hj : b.detectors.get? j <;> rw [hj] at h <;> cases h
  · exact h

/-- A detector that holds a check after an arming held it before, or was armed with it. -/
theorem get?_detectors_arm {b : Bench} {i j n connection timer : Nat} {threshold : Duration}
    (h : (b.step (.arm i connection threshold timer)).1.1.detectors.get? j = some ⟨some n⟩) :
    b.detectors.get? j = some ⟨some n⟩ ∨
      ∃ d, j = i ∧ b.detectors.get? i = some d ∧ b.watch.phase d = .unarmed ∧
        b.watch.isRunning timer = true ∧ n = b.watch.checks.next := by
  simp only [step, arm, onDetector] at h
  cases hi : b.detectors.get? i with
  | none => rw [hi] at h; exact .inl h
  | some d =>
    rw [hi] at h
    dsimp only at h
    split at h
    · exact .inl h
    · cases ha : b.watch.arm d connection threshold timer with
      | error e => rw [ha] at h; exact .inl h
      | ok armed =>
        rw [ha] at h
        obtain ⟨hp, hr, hd, -⟩ := Watch.arm_eq_ok_iff.1 ha
        simp only [Roster.get?_modify] at h
        split at h
        · rename_i hj
          rw [hj, hi, hd] at h
          obtain rfl : b.watch.checks.next = n := by simpa using h
          exact .inr ⟨d, hj, rfl, hp, hr, rfl⟩
        · exact .inl h

/-- A detector that holds a check after a step held it before, or has just been armed with it. -/
theorem get?_detectors_step {b : Bench} {op : Op} {j n : Nat}
    (h : (b.step op).1.1.detectors.get? j = some ⟨some n⟩) :
    b.detectors.get? j = some ⟨some n⟩ ∨
      ∃ d connection threshold timer, op = .arm j connection threshold timer ∧
        b.detectors.get? j = some d ∧ b.watch.phase d = .unarmed ∧
        b.watch.isRunning timer = true ∧ n = b.watch.checks.next := by
  cases op with
  | timer op => exact .inl h
  | newDetector =>
    simp only [step, Roster.get?_push] at h
    split at h
    · cases h
    · exact .inl h
  | arm i connection threshold timer =>
    rcases get?_detectors_arm h with hold | ⟨d, rfl, hd, hp, hr, hn⟩
    · exact .inl hold
    · exact .inr ⟨d, connection, threshold, timer, rfl, hd, hp, hr, hn⟩
  | cancel i | hasPlace i | isFinal i =>
    simp only [step, onDetector] at h
    cases hi : b.detectors.get? i <;> rw [hi] at h <;> exact .inl h
  | reset i | replace i =>
    simp only [step, onDetector] at h
    cases hi : b.detectors.get? i with
    | none => rw [hi] at h; exact .inl h
    | some d => rw [hi] at h; exact .inl (get?_detectors_fresh h)

/-- Checks that detectors hold have been scheduled. -/
def Sound (b : Bench) : Prop :=
  ∀ i n, b.detectors.get? i = some ⟨some n⟩ → (b.watch.checks.get? n).isSome = true

/-- The check with the number `n` has been scheduled, and no detector but `i` holds it. -/
structure HeldBy (b : Bench) (n i : Nat) : Prop where
  scheduled : (b.watch.checks.get? n).isSome = true
  only : ∀ j, b.detectors.get? j = some ⟨some n⟩ → j = i

theorem isSome_checks_step {b : Bench} {n : Nat} (h : (b.watch.checks.get? n).isSome = true)
    (op : Op) : ((b.step op).1.1.watch.checks.get? n).isSome = true := by
  obtain ⟨check, hn⟩ := Option.isSome_iff_exists.1 h
  rw [watch_step, Watch.get?_checks_act_of_some hn]
  rfl

theorem scheduled?_arm {b : Bench} {i connection timer : Nat} {threshold : Duration}
    {d : Detector} (hi : b.detectors.get? i = some d) (hp : b.watch.phase d = .unarmed)
    (hr : b.watch.isRunning timer = true) :
    (b.step (.arm i connection threshold timer)).1.1.watch.checks.get? b.watch.checks.next =
      some (b.watch.newCheck connection threshold timer) := by
  rw [watch_step, Watch.get?_checks_act, if_pos rfl]
  simp [act, hi, Watch.scheduled?, hp, hr]

theorem sound_step {b : Bench} (hb : b.Sound) (op : Op) : (b.step op).1.1.Sound := by
  intro i n h
  rcases get?_detectors_step h with hold | ⟨d, connection, threshold, timer, rfl, hi, hp, hr, rfl⟩
  · exact isSome_checks_step (hb i n hold) op
  · rw [scheduled?_arm hi hp hr]
    rfl

theorem sound_run (ops : List Op) : (run {} ops).Sound := by
  have hrun : ∀ b : Bench, b.Sound → (b.run ops).Sound := by
    induction ops with
    | nil => exact fun b hb => hb
    | cons op ops ih => exact fun b hb => ih _ (sound_step hb op)
  refine hrun {} ?_
  intro i n h
  simp at h

theorem heldBy_step {b : Bench} {n i : Nat} (hb : b.HeldBy n i) (op : Op) :
    (b.step op).1.1.HeldBy n i := by
  refine ⟨isSome_checks_step hb.scheduled op, ?_⟩
  intro j h
  rcases get?_detectors_step h with hold | ⟨-, -, -, -, -, -, -, -, rfl⟩
  · exact hb.only j hold
  · have hfresh : b.watch.checks.get? b.watch.checks.next = none := Roster.get?_next _
    have hscheduled := hb.scheduled
    rw [hfresh] at hscheduled
    cases hscheduled

theorem heldBy_course {b : Bench} {n i : Nat} (hb : b.HeldBy n i) (ops : List Op) :
    ∀ x ∈ b.course ops, x.1.HeldBy n i := by
  induction ops generalizing b with
  | nil => simp [course]
  | cons op ops ih =>
    intro x hx
    rcases List.mem_cons.1 hx with rfl | hx
    · exact hb
    · exact ih (heldBy_step hb op) x hx

/-! ## A check after its arming -/

/-- A step cancels or resets the detector `i` while that holds the check with the number `n`, or
shuts down its timer, which it heeds. -/
def Disturbs (i n : Nat) (check : Check) (x : Bench × Op) : Prop :=
  ((x.2 = .cancel i ∨ x.2 = .reset i) ∧ x.1.detectors.get? i = some ⟨some n⟩) ∨
    x.2 = .timer (.shutDown check.timer) ∧ check.heedless = false

omit [Scheduler] in
/-- A detector that gives up a check held by `i` is `i`. -/
theorem held_of_givesUp {b : Bench} {n i j : Nat} {op : Op} (hb : b.HeldBy n i)
    (hop : op = .cancel j ∨ op = .reset j) (h : (b.act op).givesUp n = true) :
    j = i ∧ b.detectors.get? i = some ⟨some n⟩ := by
  have hact : b.act op = match b.detectors.get? j with
      | some d => .giveUp d
      | none => .still := by
    rcases hop with rfl | rfl <;> rfl
  rw [hact] at h
  cases hj : b.detectors.get? j with
  | none => rw [hj] at h; cases h
  | some d =>
    rw [hj] at h
    obtain ⟨check⟩ := d
    obtain rfl : check = some n := by simpa [Act.givesUp] using h
    obtain rfl : j = i := hb.only j hj
    exact ⟨rfl, hj⟩

omit [Scheduler] in
theorem disturbs_iff {x : Bench × Op} {i n : Nat} {check : Check} (hx : x.1.HeldBy n i) :
    Disturbs i n check x ↔ (x.1.act x.2).Disturbs n check := by
  obtain ⟨b, op⟩ := x
  constructor
  · rintro (⟨rfl | rfl, hi⟩ | ⟨rfl, hheeds⟩)
    · left
      simp only [act]
      rw [hi]
      simp [Act.givesUp]
    · left
      simp only [act]
      rw [hi]
      simp [Act.givesUp]
    · exact .inr ⟨rfl, hheeds⟩
  · rintro (hgives | ⟨hdown, hheeds⟩)
    · cases op with
      | cancel j =>
        obtain ⟨rfl, hi⟩ := held_of_givesUp hx (.inl rfl) hgives
        exact .inl ⟨.inl rfl, hi⟩
      | reset j =>
        obtain ⟨rfl, hi⟩ := held_of_givesUp hx (.inr rfl) hgives
        exact .inl ⟨.inr rfl, hi⟩
      | arm j connection threshold timer =>
        simp only [act] at hgives
        split at hgives <;> cases hgives
      | _ => cases hgives
    · cases op with
      | timer op =>
        obtain rfl : op = .shutDown check.timer := by simpa [act] using hdown
        exact .inr ⟨rfl, hheeds⟩
      | arm j connection threshold timer | cancel j | reset j =>
        simp only [act] at hdown
        split at hdown <;> cases hdown
      | _ => cases hdown

/-- What arming needs to succeed. -/
theorem armed_iff {b : Bench} {i connection timer : Nat} {threshold : Duration} :
    (b.step (.arm i connection threshold timer)).1.2 = .armed ↔
      ∃ d, b.detectors.get? i = some d ∧ b.watch.phase d = .unarmed ∧
        b.watch.isRunning timer = true := by
  simp only [step, arm, onDetector]
  cases b.detectors.get? i with
  | none => simp
  | some d =>
    dsimp only
    split
    · rename_i hnone
      have hstopped := not_isRunning_of_none (Option.isNone_iff_eq_none.1 hnone)
      simp [hstopped]
    · cases ha : b.watch.arm d connection threshold timer with
      | ok armed =>
        obtain ⟨hp, hr, -⟩ := Watch.arm_eq_ok_iff.1 ha
        simp [hp, hr]
      | error e =>
        have hno : ¬ (b.watch.phase d = .unarmed ∧ b.watch.isRunning timer = true) := by
          rintro ⟨hp, hr⟩
          have hok : b.watch.arm d connection threshold timer = .ok (_, _) :=
            Watch.arm_eq_ok_iff.2 ⟨hp, hr, rfl, rfl⟩
          rw [ha] at hok
          cases hok
        simpa using hno

/-- An arming that does not succeed changes nothing. -/
theorem arm_of_not_armed {b : Bench} {i connection timer : Nat} {threshold : Duration}
    (h : (b.step (.arm i connection threshold timer)).1.2 ≠ .armed) :
    (b.arm i connection threshold timer).1 = b := by
  simp only [step, arm, onDetector] at h ⊢
  cases hi : b.detectors.get? i with
  | none => rfl
  | some d =>
    rw [hi] at h
    dsimp only at h ⊢
    split at h
    · rename_i hnone
      rw [if_pos hnone]
    · rename_i hsome
      rw [if_neg hsome]
      cases ha : b.watch.arm d connection threshold timer with
      | error e => rfl
      | ok armed =>
        rw [ha] at h
        exact absurd rfl h

theorem heldBy_arm {b : Bench} (hb : b.Sound) {i connection timer : Nat} {threshold : Duration}
    (h : (b.step (.arm i connection threshold timer)).1.2 = .armed) :
    (b.step (.arm i connection threshold timer)).1.1.HeldBy b.watch.checks.next i := by
  obtain ⟨d, hi, hp, hr⟩ := armed_iff.1 h
  constructor
  · rw [scheduled?_arm hi hp hr]
    rfl
  · intro j hj
    rcases get?_detectors_step hj with hold | ⟨_, _, _, _, hop, -⟩
    · have hsome := hb j _ hold
      rw [Roster.get?_next] at hsome
      cases hsome
    · cases hop
      rfl

theorem waiting_arm {b : Bench} {i connection timer : Nat} {threshold : Duration}
    (h : (b.step (.arm i connection threshold timer)).1.2 = .armed) :
    (b.step (.arm i connection threshold timer)).1.1.watch.Waiting b.watch.checks.next
      (b.watch.newCheck connection threshold timer) := by
  obtain ⟨d, hi, hp, hr⟩ := armed_iff.1 h
  refine ⟨scheduled?_arm hi hp hr, rfl, .inl ?_⟩
  rw [watch_step]
  refine Watch.isRunning_act hr ?_
  simp [act, hi]

/-- What comes of a successful arming, whatever steps follow. -/
theorem reportLaw_arm {before later : List Op} {i connection timer : Nat} {threshold : Duration}
    (h : ((run {} before).step (.arm i connection threshold timer)).1.2 = .armed) :
    ReportLaw sight
      (Disturbs i (run {} before).watch.checks.next
        ((run {} before).watch.newCheck connection threshold timer))
      (run {} before).watch.checks.next
      ((run {} before).watch.newCheck connection threshold timer)
      (((run {} before).step (.arm i connection threshold timer)).1.1.course later)
      (run {} (before ++ .arm i connection threshold timer :: later)).watch := by
  have hrun : run {} (before ++ .arm i connection threshold timer :: later) =
      ((run {} before).step (.arm i connection threshold timer)).1.1.run later := by
    simp [run]
  rw [hrun]
  refine reportLaw_of_waiting (leads_course _ later) (waiting_arm h) ?_
  intro x hx _
  exact disturbs_iff (heldBy_course (heldBy_arm (sound_run before) h) later x hx)

end ConnLease.Leak.Bench
