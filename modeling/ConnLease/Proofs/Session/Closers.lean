import Mathlib.Data.List.Induction
import Mathlib.Data.List.Perm.Basic
import ConnLease.Proofs.Session.Close
import ConnLease.Proofs.Session.Quiescence

/-!
# Threads that close one connection

Several threads close the same open connection. Each of them tests and sets the closed flag in one
step. The thread that sets it cancels the leak check, drains the registry, closes the statements one
by one and gives the connection back, and between any two of these steps the other threads may take
theirs. A schedule lists the threads in the order in which they take their steps.

The invariant says who owns the teardown. Once a step has been taken there is one owner, all others
have called or have been turned away, and what the owner does from here on, if it is left alone,
leads to what a single close leads to (`finish`). Main statement: `one_teardown`, for every number
of threads, every schedule and every script, panics included.
-/

namespace ConnLease

/-- Where a thread stands that closes a connection. -/
inductive Closer where
  /-- The thread has not yet looked at the closed flag. -/
  | called
  /-- The connection was closed already, and the thread has returned. -/
  | turnedAway
  /-- The thread has set the closed flag. -/
  | entered
  /-- The leak check has been cancelled. -/
  | cancelled
  /-- The registry has been drained of `swept` statements, of which `left` are still to be closed;
  `failure` is the first that failed. -/
  | sweeping (swept : Nat) (left : List Nat) (failure : Option (Nat × DriverError))
  /-- The statement `s` has just failed to close with the error `e`. -/
  | failed (swept s : Nat) (e : DriverError) (left : List Nat)
      (failure : Option (Nat × DriverError))
  /-- The sweep is over, also by a panic, and the connection is about to be given back. -/
  | releasing (outcome : Outcome Unit)
  | returned (outcome : Outcome Unit)
deriving Repr, DecidableEq

namespace Closer

/-- What the call has returned, once it has. -/
def result? : Closer → Option (Outcome Unit)
  | .turnedAway => some (.ok ())
  | .returned outcome => some outcome
  | _ => none

/-- Whether it was this thread that set the closed flag. -/
def hasWon : Closer → Bool
  | .called | .turnedAway => false
  | _ => true

/-- Where a thread stands when it has tried to close the statement `s`. -/
def afterClose (swept s : Nat) (left : List Nat) (failure : Option (Nat × DriverError)) :
    CloseResult → Closer
  | .panicked label => .releasing (.panicked label)
  | .failed e => .failed swept s e left failure
  | .closed | .alreadyClosed => .sweeping swept left failure

end Closer

namespace Session

/-- The next step of a thread that closes the connection `c`; a thread that has returned takes
none. -/
def advance (w : Session) (c : Nat) : Closer → Option (Session × Closer)
  | .called =>
    if w.isClosed c then some (w, .turnedAway)
    else some (w.onConnection c fun conn => { conn with closed := true }, .entered)
  | .entered => some (w.cancelCheck c, .cancelled)
  | .cancelled => some ((w.drain c).1, .sweeping (w.drain c).2.length (w.drain c).2 none)
  | .sweeping swept [] failure =>
    some (w.emit (.closed c swept (w.isBroken c)),
      .releasing ((SweepResult.finished failure).outcome c))
  | .sweeping swept (s :: left) failure =>
    some ((w.closeAtDriver s).1, .afterClose swept s left failure (w.closeAtDriver s).2)
  | .failed swept s e left failure =>
    some (w.noteFailure c s e, .sweeping swept left (failure.or (some (s, e))))
  | .releasing outcome => some (w.release c, .returned outcome)
  | .turnedAway | .returned _ => none

/-- The end of a teardown: the sweep over the statements that are left, and the release. -/
def sweepOut (w : Session) (c swept : Nat) (left : List Nat)
    (failure : Option (Nat × DriverError)) : Session × Outcome Unit :=
  match w.sweep c left with
  | (w, .panicked label) => (w.release c, .panicked label)
  | (w, .finished later) =>
    ((w.emit (.closed c swept (w.isBroken c))).release c,
      (SweepResult.finished (failure.or later)).outcome c)

/-- What a thread leads to when it is left alone from here on. -/
def finish (w : Session) (c : Nat) : Closer → Session × Outcome Unit
  | .called => w.close c
  | .turnedAway => (w, .ok ())
  | .entered => w.teardown c
  | .cancelled => (w.drain c).1.sweepOut c (w.drain c).2.length (w.drain c).2 none
  | .sweeping swept left failure => w.sweepOut c swept left failure
  | .failed swept s e left failure =>
    (w.noteFailure c s e).sweepOut c swept left (failure.or (some (s, e)))
  | .releasing outcome => (w.release c, outcome)
  | .returned outcome => (w, outcome)

/-- The steps that a thread needs at most until it has returned. -/
def stepsLeft (w : Session) (c : Nat) : Closer → Nat
  | .called => 1
  | .entered => 2 * (w.openIds c).length + 4
  | .cancelled => 2 * (w.openIds c).length + 3
  | .sweeping _ left _ => 2 * left.length + 2
  | .failed _ _ _ left _ => 2 * left.length + 3
  | .releasing _ => 1
  | .turnedAway | .returned _ => 0

/-! ## One step of one thread -/

theorem advance_called (w : Session) (c : Nat) : w.advance c .called =
    if w.isClosed c then some (w, .turnedAway)
    else some (w.onConnection c fun conn => { conn with closed := true }, .entered) := rfl

/-- An attempt to close the next statement keeps what the sweep leads to. -/
theorem finish_afterClose (w : Session) (c swept s : Nat) (left : List Nat)
    (failure : Option (Nat × DriverError)) :
    (w.closeAtDriver s).1.finish c (.afterClose swept s left failure (w.closeAtDriver s).2) =
      w.sweepOut c swept (s :: left) failure := by
  unfold sweepOut
  rw [sweep]
  rcases w.closeAtDriver s with ⟨u, _ | _ | e | label⟩
  · rfl
  · rfl
  · show (u.noteFailure c s e).sweepOut c swept left (failure.or (some (s, e))) = _
    unfold sweepOut
    dsimp only
    rcases (u.noteFailure c s e).sweep c left with ⟨v, later | label⟩
    · cases failure <;> rfl
    · rfl
  · rfl

theorem teardown_eq_sweepOut (w : Session) (c : Nat) :
    w.teardown c = ((w.cancelCheck c).drain c).1.sweepOut c
      ((w.cancelCheck c).drain c).2.length ((w.cancelCheck c).drain c).2 none := by
  rw [teardown_eq]
  unfold sweepOut
  rcases ((w.cancelCheck c).drain c).1.sweep c ((w.cancelCheck c).drain c).2 with
    ⟨u, later | label⟩
  · dsimp only
    rw [Option.none_or]
  · rfl

variable {w w' : Session} {c : Nat} {t t' : Closer}

/-- A step of a thread keeps what the thread leads to. -/
theorem finish_advance (h : w.advance c t = some (w', t')) : w'.finish c t' = w.finish c t := by
  cases t with
  | called =>
    rw [advance_called] at h
    split at h
    · rename_i hclosed
      cases h
      exact (close_of_isClosed hclosed).symm
    · rename_i hopen
      cases h
      exact (if_neg hopen).symm
  | entered =>
    cases h
    exact (teardown_eq_sweepOut w c).symm
  | sweeping swept left failure =>
    cases left with
    | nil =>
      cases h
      show _ = w.sweepOut c swept [] failure
      unfold sweepOut
      rw [sweep]
      dsimp only
      rw [Option.or_none]
      rfl
    | cons s left =>
      cases h
      exact finish_afterClose w c swept s left failure
  | turnedAway => cases h
  | returned outcome => cases h
  | cancelled => cases h; rfl
  | failed swept s e left failure => cases h; rfl
  | releasing outcome => cases h; rfl

theorem isClosed_of_connections {f : Connection → Connection}
    (h : w'.connections = w.connections.modify c f) (hf : ∀ conn, (f conn).closed = conn.closed) :
    w'.isClosed c = w.isClosed c := by
  unfold isClosed
  rw [h, Roster.get?_modify_self]
  cases w.connections.get? c with
  | none => rfl
  | some conn => exact hf conn

/-- No step of a thread opens the connection. -/
theorem isClosed_advance (hclosed : w.isClosed c = true)
    (h : w.advance c t = some (w', t')) : w'.isClosed c = true := by
  have hsame : ∀ {u : Session}, u.connections = w.connections → u.isClosed c = true := by
    intro u hu
    unfold isClosed
    rw [hu]
    exact hclosed
  cases t with
  | called =>
    rw [advance_called, if_pos hclosed] at h
    cases h
    exact hclosed
  | cancelled =>
    cases h
    rw [isClosed_of_connections (drain_connections w c) fun _ => rfl]
    exact hclosed
  | failed swept s e left failure =>
    cases h
    rw [isClosed_of_connections (noteFailure_connections w c s e) fun _ => rfl]
    exact hclosed
  | sweeping swept left failure =>
    cases left with
    | nil => cases h; exact hclosed
    | cons s left => cases h; exact hsame (by simp)
  | entered => cases h; exact hsame (by simp)
  | releasing outcome => cases h; exact hsame (by simp)
  | turnedAway => cases h
  | returned outcome => cases h

/-- The thread that has won keeps going, and each of its steps brings it closer to the end. -/
theorem stepsLeft_advance (hwon : t.hasWon = true) (h : w.advance c t = some (w', t')) :
    t'.hasWon = true ∧ w'.stepsLeft c t' + 1 ≤ w.stepsLeft c t := by
  cases t with
  | entered =>
    cases h
    refine ⟨rfl, ?_⟩
    simp [stepsLeft, openIds]
  | cancelled =>
    cases h
    refine ⟨rfl, ?_⟩
    simp [stepsLeft, drain_snd]
  | sweeping swept left failure =>
    cases left with
    | nil => cases h; exact ⟨rfl, Nat.le_refl _⟩
    | cons s left =>
      cases h
      cases (w.closeAtDriver s).2 <;>
        exact ⟨rfl, by simp only [Closer.afterClose, stepsLeft, List.length_cons]; omega⟩
  | failed swept s e left failure => cases h; exact ⟨rfl, Nat.le_refl _⟩
  | releasing outcome => cases h; exact ⟨rfl, Nat.le_refl _⟩
  | called => cases hwon
  | turnedAway => cases hwon
  | returned outcome => cases h

/-- A thread that has not returned is never blocked. -/
theorem exists_advance (w : Session) (c : Nat) (h : t.result? = none) :
    ∃ x, w.advance c t = some x := by
  cases t with
  | called =>
    rw [advance_called]
    split
    · exact ⟨_, rfl⟩
    · exact ⟨_, rfl⟩
  | sweeping swept left failure => cases left <;> exact ⟨_, rfl⟩
  | turnedAway => cases h
  | returned outcome => cases h
  | _ => exact ⟨_, rfl⟩

/-- A closed connection stays closed until it is revived. -/
theorem isReturned_run [Scheduler] {ops : List Op} (h : w.isReturned c = true)
    (hops : ∀ x ∈ w.history ops, x.2 ≠ .revive c) : (w.run ops).isReturned c = true := by
  refine (run_induction (P := fun u => u.isReturned c = true) ?_ h).1
  intro x hx hreturned
  obtain ⟨conn, hc, -⟩ := exists_of_isReturned hreturned
  rw [isReturned_move, if_neg (hops x hx)]
  split
  · rw [hc]
    rfl
  · exact hreturned

theorem isClosed_of_isReturned (h : w.isReturned c = true) : w.isClosed c = true := by
  obtain ⟨conn, hc, hclosed⟩ := exists_of_isReturned h
  rw [isClosed_eq hc, hclosed]

end Session

/-! ## Many threads -/

/-- A session with the threads that close one of its connections. -/
structure Crowd where
  session : Session
  threads : List Closer
deriving Repr, DecidableEq

/-- The error that a call ended with. -/
def Outcome.error? {α : Type} : Outcome α → Option LeaseError
  | .err e => some e
  | _ => none

/-- The panic that a call ended in. -/
def Outcome.panic? {α : Type} : Outcome α → Option String
  | .panicked label => some label
  | _ => none

/-- The tally of the results of some calls. -/
def Session.CloseTally.of (results : List (Outcome Unit)) : CloseTally where
  succeeded := results.count (.ok ())
  errors := results.filterMap Outcome.error?
  panics := results.filterMap Outcome.panic?

namespace Crowd

/-- All threads have called, and none has taken a step. -/
def start (w : Session) (n : Nat) : Crowd := ⟨w, List.replicate n .called⟩

/-- The next step of thread number `i`. -/
def step (c : Nat) (s : Crowd) (i : Nat) : Option Crowd :=
  match s.threads[i]? with
  | none => none
  | some t => (s.session.advance c t).map fun x => ⟨x.1, s.threads.set i x.2⟩

/-- The threads take their steps in the order of a schedule. -/
def run (c : Nat) (s : Crowd) (schedule : List Nat) : Option Crowd := schedule.foldlM (step c) s

/-- All threads have returned. -/
def IsDone (s : Crowd) : Prop := ∀ t ∈ s.threads, t.result?.isSome = true

instance (s : Crowd) : Decidable s.IsDone :=
  inferInstanceAs (Decidable (∀ t ∈ s.threads, t.result?.isSome = true))

/-- What the calls have returned so far. -/
def results (s : Crowd) : List (Outcome Unit) := s.threads.filterMap Closer.result?

theorem step_eq_some_iff {c i : Nat} {s s' : Crowd} :
    s.step c i = some s' ↔ ∃ t x, s.threads[i]? = some t ∧ s.session.advance c t = some x ∧
      s' = ⟨x.1, s.threads.set i x.2⟩ := by
  unfold step
  cases s.threads[i]? with
  | none => simp
  | some t =>
    rw [Option.map_eq_some_iff]
    constructor
    · rintro ⟨x, hx, rfl⟩
      exact ⟨t, x, rfl, hx, rfl⟩
    · rintro ⟨t', x, ht, hx, rfl⟩
      cases ht
      exact ⟨x, hx, rfl⟩

theorem run_append (c : Nat) (s : Crowd) (schedule more : List Nat) :
    s.run c (schedule ++ more) = (s.run c schedule).bind (·.run c more) :=
  List.foldlM_append

theorem run_snoc (c : Nat) (s : Crowd) (schedule : List Nat) (i : Nat) :
    s.run c (schedule ++ [i]) = (s.run c schedule).bind (·.step c i) := by
  rw [run_append]
  congr 1
  funext u
  simp [run]

/-! ## The owner of the teardown -/

/-- No schedule for one more thread than `others` is longer. -/
def mostSteps (w : Session) (c others : Nat) : Nat := others + 2 * (w.openIds c).length + 5

/-- Thread number `i` owns the teardown, and the others wait or have been turned away. -/
structure Owned (w : Session) (c others i steps : Nat) (s : Crowd) : Prop where
  size : s.threads.length = others + 1
  owner : ∃ t, s.threads[i]? = some t ∧ t.hasWon = true ∧ s.session.finish c t = w.close c ∧
    steps + s.session.stepsLeft c t + s.threads.count .called ≤ mostSteps w c others
  others : ∀ j t, s.threads[j]? = some t → j ≠ i → t = .called ∨ t = .turnedAway
  closed : s.session.isClosed c = true

variable {w : Session} {c others i j n : Nat} {schedule : List Nat} {s s' : Crowd}

/-- The first thread to take a step sets the closed flag. -/
theorem owned_start (hopen : w.isClosed c = false) (hc : (w.connections.get? c).isSome = true)
    (h : (start w (others + 1)).step c i = some s') : Owned w c others i 1 s' := by
  obtain ⟨t, x, ht, hx, rfl⟩ := step_eq_some_iff.1 h
  have hi : i < others + 1 ∧ Closer.called = t := by
    simpa [start, List.getElem?_replicate] using ht
  obtain ⟨hi, rfl⟩ := hi
  have hfinish : x.1.finish c x.2 = w.close c := Session.finish_advance hx
  rw [Session.advance_called, start, hopen, if_neg Bool.false_ne_true] at hx
  cases hx
  refine ⟨by simp [start], ⟨.entered, ?_, rfl, hfinish, ?_⟩, ?_, ?_⟩
  · simp [start, hi]
  · have hcalled : ((List.replicate (others + 1) Closer.called).set i .entered).count .called =
        others := by
      rw [List.count_set (by simpa using hi)]
      simp
    have hids : (w.onConnection c fun conn => { conn with closed := true }).openIds c =
        w.openIds c := by
      cases hc : w.connections.get? c <;> simp [Session.openIds, hc]
    simp only [start, Session.stepsLeft, hids, hcalled, mostSteps]
    omega
  · intro j t ht hj
    left
    simp only [start, List.getElem?_set_ne (Ne.symm hj), List.getElem?_replicate] at ht
    split at ht
    · exact (Option.some.inj ht).symm
    · cases ht
  · obtain ⟨conn, hc⟩ := Option.isSome_iff_exists.1 hc
    simp [Session.isClosed, hc]

/-- A step that another thread than the owner takes turns it away. -/
theorem Owned.loses (h : Owned w c others i n s) {t : Closer} {x : Session × Closer}
    (ht : s.threads[j]? = some t) (hj : j ≠ i) (hx : s.session.advance c t = some x) :
    t = .called ∧ x = (s.session, .turnedAway) := by
  rcases h.others j t ht hj with rfl | rfl
  · rw [Session.advance_called, h.closed, if_pos rfl] at hx
    exact ⟨rfl, (Option.some.inj hx).symm⟩
  · cases hx

/-- A step of the owner is a step of the teardown; a step of any other thread turns it away. -/
theorem owned_step (h : Owned w c others i n s) (hstep : s.step c j = some s') :
    Owned w c others i (n + 1) s' := by
  obtain ⟨t, x, ht, hx, rfl⟩ := step_eq_some_iff.1 hstep
  obtain ⟨hj, htj⟩ := List.getElem?_eq_some_iff.1 ht
  obtain ⟨owner, howner, hwon, hfinish, hsteps⟩ := h.owner
  have hcount := List.count_set (a := x.2) (b := Closer.called) hj
  rw [htj] at hcount
  refine ⟨by simpa using h.size, ?_, ?_, Session.isClosed_advance h.closed hx⟩
  · by_cases hji : j = i
    · subst hji
      cases howner.symm.trans ht
      obtain ⟨hwon', hless⟩ := Session.stepsLeft_advance hwon hx
      have hnew : (x.2 == Closer.called) = false := by
        cases hx2 : x.2 <;> simp_all [Closer.hasWon]
      rw [hnew] at hcount
      refine ⟨x.2, by simp [hj], hwon', ?_, ?_⟩
      · rw [Session.finish_advance hx, hfinish]
      · simp only [Bool.false_eq_true, if_false] at hcount
        dsimp only
        omega
    · obtain ⟨rfl, rfl⟩ := h.loses ht hji hx
      have hpos : 0 < s.threads.count .called :=
        List.count_pos_iff.2 (List.mem_of_getElem? ht)
      refine ⟨owner, by simpa [List.getElem?_set_ne hji] using howner, hwon, hfinish, ?_⟩
      simp at hcount
      dsimp only
      omega
  · intro k u hu hk
    by_cases hkj : j = k
    · subst hkj
      obtain ⟨-, rfl⟩ := h.loses ht hk hx
      exact .inr (by simpa [hj] using hu.symm)
    · exact h.others k u (by simpa [List.getElem?_set_ne hkj] using hu) hk

/-- Once a step has been taken, the first thread of the schedule owns the teardown. -/
theorem owned_run (hopen : w.isClosed c = false) (hc : (w.connections.get? c).isSome = true)
    (h : (start w (others + 1)).run c (i :: schedule) = some s) :
    Owned w c others i (schedule.length + 1) s := by
  induction schedule using List.reverseRecOn generalizing s with
  | nil => exact owned_start hopen hc (by simpa [run] using h)
  | append_singleton before j ih =>
    rw [← List.cons_append, run_snoc, Option.bind_eq_some_iff] at h
    obtain ⟨u, hu, hstep⟩ := h
    have hnext := owned_step (ih hu) hstep
    simpa using hnext

theorem owned_of_head (hopen : w.isClosed c = false)
    (hc : (w.connections.get? c).isSome = true)
    (h : (start w (others + 1)).run c schedule = some s) (hi : schedule.head? = some i) :
    Owned w c others i schedule.length s := by
  obtain ⟨rest, rfl⟩ := List.head?_eq_some_iff.1 hi
  exact owned_run hopen hc h

/-- Before the first step no thread has returned. -/
theorem head_of_done (h : (start w (others + 1)).run c schedule = some s) (hdone : s.IsDone) :
    ∃ i, schedule.head? = some i := by
  cases schedule with
  | cons i rest => exact ⟨i, rfl⟩
  | nil =>
    cases h
    have hcalled := hdone .called (by simp [start])
    cases hcalled

theorem Owned.only_winner (h : Owned w c others i n s) :
    ∃ t, s.threads[i]? = some t ∧ t.hasWon = true ∧
      ∀ j u, s.threads[j]? = some u → u.hasWon = true → j = i := by
  obtain ⟨t, ht, hwon, -⟩ := h.owner
  refine ⟨t, ht, hwon, ?_⟩
  intro j u hu huwon
  by_contra hj
  rcases h.others j u hu hj with rfl | rfl <;> cases huwon

theorem Owned.turnsAway (h : Owned w c others i n s) (hj : j ≠ i) (hstep : s.step c j = some s') :
    s' = ⟨s.session, s.threads.set j .turnedAway⟩ := by
  obtain ⟨t, x, ht, hx, rfl⟩ := step_eq_some_iff.1 hstep
  obtain ⟨-, rfl⟩ := h.loses ht hj hx
  rfl

theorem length_le_mostSteps (hopen : w.isClosed c = false)
    (hc : (w.connections.get? c).isSome = true)
    (h : (start w (others + 1)).run c schedule = some s) :
    schedule.length ≤ mostSteps w c others := by
  cases schedule with
  | nil => exact Nat.zero_le _
  | cons i rest =>
    obtain ⟨t, -, -, -, hsteps⟩ := (owned_run hopen hc h).owner
    simp only [List.length_cons]
    omega

theorem exists_step {t : Closer} (ht : s.threads[j]? = some t) (hresult : t.result? = none) :
    ∃ s', s.step c j = some s' := by
  obtain ⟨x, hx⟩ := Session.exists_advance s.session c hresult
  exact ⟨_, step_eq_some_iff.2 ⟨t, x, ht, hx, rfl⟩⟩

theorem exists_unfinished (h : ¬ s.IsDone) :
    ∃ (j : Nat) (t : Closer), s.threads[j]? = some t ∧ t.result? = none := by
  unfold IsDone at h
  push Not at h
  obtain ⟨t, ht, hresult⟩ := h
  obtain ⟨j, hj⟩ := List.getElem?_of_mem ht
  exact ⟨j, t, hj, by simpa using hresult⟩

/-- No thread is ever blocked and no schedule is very long, so every schedule can be continued until
all threads have returned. -/
theorem exists_done (hopen : w.isClosed c = false) (hc : (w.connections.get? c).isSome = true)
    (h : (start w (others + 1)).run c schedule = some s) :
    ∃ rest s', s.run c rest = some s' ∧ s'.IsDone := by
  obtain ⟨left, hleft⟩ : ∃ left, mostSteps w c others < schedule.length + left :=
    ⟨mostSteps w c others + 1, by omega⟩
  induction left generalizing schedule s with
  | zero =>
    have hbound := length_le_mostSteps hopen hc h
    omega
  | succ left ih =>
    by_cases hdone : s.IsDone
    · exact ⟨[], s, rfl, hdone⟩
    · obtain ⟨j, t, ht, hresult⟩ := exists_unfinished hdone
      obtain ⟨u, hu⟩ := exists_step (c := c) ht hresult
      have hrun : (start w (others + 1)).run c (schedule ++ [j]) = some u := by
        rw [run_snoc, h]
        exact hu
      have hlength : mostSteps w c others < (schedule ++ [j]).length + left := by
        simp only [List.length_append, List.length_singleton]
        omega
      obtain ⟨rest, s', hrest, hs'⟩ := ih hrun hlength
      refine ⟨j :: rest, s', ?_, hs'⟩
      unfold run
      rw [List.foldlM_cons, hu]
      exact hrest

/-- When all threads have returned, the owner has what a single close returns, and all others have
been turned away. -/
theorem Owned.done (h : Owned w c others i n s) (hdone : s.IsDone) :
    s.session = (w.close c).1 ∧ i < others + 1 ∧
      s.threads = (List.replicate (others + 1) .turnedAway).set i (.returned (w.close c).2) := by
  obtain ⟨t, ht, hwon, hfinish, -⟩ := h.owner
  have hi : i < others + 1 := h.size ▸ (List.getElem?_eq_some_iff.1 ht).1
  have hreturned : ∃ outcome, t = .returned outcome := by
    have hresult := hdone t (List.mem_of_getElem? ht)
    cases t with
    | returned outcome => exact ⟨outcome, rfl⟩
    | turnedAway => cases hwon
    | _ => cases hresult
  obtain ⟨outcome, rfl⟩ := hreturned
  have hclose : (s.session, outcome) = w.close c := hfinish
  refine ⟨congrArg Prod.fst hclose, hi, ?_⟩
  apply List.ext_getElem?
  intro j
  by_cases hj : i = j
  · subst hj
    rw [ht, ← hclose]
    simp [hi]
  · rw [List.getElem?_set_ne hj, List.getElem?_replicate]
    split
    · rename_i hlt
      rw [← h.size] at hlt
      have hmem := List.getElem?_eq_getElem hlt
      rcases h.others j _ hmem (Ne.symm hj) with hcalled | haway
      · have hresult := hdone _ (List.getElem_mem hlt)
        rw [hcalled] at hresult
        cases hresult
      · rw [hmem, haway]
    · rename_i hge
      exact List.getElem?_eq_none (by rw [h.size]; omega)

theorem Owned.results_perm (h : Owned w c others i n s) (hdone : s.IsDone) :
    s.results.Perm ((w.close c).2 :: List.replicate others (.ok ())) := by
  obtain ⟨-, hi, hthreads⟩ := h.done hdone
  have hset := List.set_perm_cons_eraseIdx
    (l := List.replicate (others + 1) Closer.turnedAway) (by simpa using hi)
    (Closer.returned (w.close c).2)
  rw [← hthreads, List.eraseIdx_replicate, if_pos hi] at hset
  have hresults := hset.filterMap Closer.result?
  have haway : (List.replicate others Closer.turnedAway).filterMap Closer.result? =
      List.replicate others (.ok ()) := List.filterMap_replicate_of_some rfl
  rw [← haway]
  exact hresults

/-! ## After the release -/

/-- A tally does not see the order of the results, as at most one of them is not a success. -/
theorem tally_of_perm (results : List (Outcome Unit)) (outcome : Outcome Unit) :
    results.Perm (outcome :: List.replicate others (.ok ())) →
    Session.CloseTally.of results =
      match outcome with
      | .ok () => ⟨others + 1, [], []⟩
      | .err e => ⟨others, [e], []⟩
      | .panicked label => ⟨others, [], [label]⟩ := by
  intro h
  have hcount := h.count_eq (.ok ())
  have herrors := h.filterMap Outcome.error?
  have hpanics := h.filterMap Outcome.panic?
  have hnone : ∀ {β : Type} {f : Outcome Unit → Option β}, f (.ok ()) = none →
      (List.replicate others (Outcome.ok ())).filterMap f = [] :=
    fun hf => List.filterMap_replicate_of_none hf
  rw [List.filterMap_cons, hnone rfl] at herrors hpanics
  unfold Session.CloseTally.of
  cases outcome with
  | ok value =>
    rw [hcount, List.perm_nil.1 herrors, List.perm_nil.1 hpanics]
    simp
  | err e =>
    rw [hcount, herrors.eq_singleton, List.perm_nil.1 hpanics]
    simp
  | panicked label =>
    rw [hcount, List.perm_nil.1 herrors, hpanics.eq_singleton]
    simp

/-- The pool that owns a connection gets one release when it is closed, and no other pool does. -/
theorem releases_of_closedDown {conn : Connection} {w' : Session}
    (h : w.ClosedDown c conn w') {p : Nat} {pool : Pool} (hp : w.pools.get? p = some pool) :
    (w'.pools.get? p).map (·.releases) = some (pool.releases ++
      if p = conn.owner ∧ pool.held = true then
        [(w.closedMetadata c conn (w.brokenAfterClose c conn)).release]
      else []) := by
  split
  · rename_i howner
    obtain ⟨rfl, hheld⟩ := howner
    rw [h.owner hp hheld, Option.map_some, Pool.releases_receive]
  · rename_i hother
    have hnot : p ≠ conn.owner ∨ w.poolLives p = false := by
      rw [Session.poolLives_eq hp]
      by_cases hpo : p = conn.owner
      · exact .inr (by simpa [hpo] using hother)
      · exact .inl hpo
    rw [h.otherPools hnot, hp, List.append_nil]
    rfl

/-- Closing a connection that has been closed and not been revived since does nothing. -/
theorem close_again [Scheduler] {conn : Connection} {w' : Session} (h : w.ClosedDown c conn w')
    (hc : w.connections.get? c = some conn) {ops : List Session.Op}
    (hops : ∀ x ∈ w'.history ops, x.2 ≠ .revive c) :
    (w'.run ops).close c = (w'.run ops, .ok ()) := by
  apply Session.close_of_isClosed
  have hreturned : w'.isReturned c = true := by
    unfold Session.isReturned
    rw [h.connection hc]
    rfl
  exact Session.isClosed_of_isReturned (Session.isReturned_run hreturned hops)

/-- What every schedule of threads that close the connection `c` comes to. The connection is open
and has the record `conn` in the session `w`, one thread more than `others` closes it, and `s` is
what the steps of the schedule lead to. -/
structure OneTeardown [Scheduler] (w : Session) (c : Nat) (conn : Connection) (others : Nat)
    (schedule : List Nat) (s : Crowd) : Prop where
  /-- The thread that takes the first step wins, and no other does. -/
  winner : ∀ i, schedule.head? = some i → ∃ t, s.threads[i]? = some t ∧ t.hasWon = true ∧
    ∀ j u, s.threads[j]? = some u → u.hasWon = true → j = i
  /-- Every step of another thread turns it away and has no effect. -/
  losers : ∀ i j s', schedule.head? = some i → j ≠ i → s.step c j = some s' →
    s' = ⟨s.session, s.threads.set j .turnedAway⟩
  unblocked : ∀ (j : Nat) (t : Closer), s.threads[j]? = some t → t.result? = none →
    ∃ s', s.step c j = some s'
  bounded : schedule.length ≤ others + 2 * (w.openIds c).length + 5
  completes : ∃ rest s', s.run c rest = some s' ∧ s'.IsDone
  /-- When all threads have returned, the session is what a single close leaves. -/
  session : s.IsDone → s.session = (w.close c).1
  results : s.IsDone → s.results.Perm ((w.close c).2 :: List.replicate others (.ok ()))
  tally : s.IsDone →
    w.closeConcurrently c (others + 1) = ({ s.session with log := w.log }, .of s.results)
  /-- The owner got one release, if it lives, and no other pool got one. -/
  released : s.IsDone → ∀ p pool, w.pools.get? p = some pool →
    (s.session.pools.get? p).map (·.releases) = some (pool.releases ++
      if p = conn.owner ∧ pool.held = true then
        [(w.closedMetadata c conn (w.brokenAfterClose c conn)).release]
      else [])
  /-- Whatever is done next, a close does nothing until the connection is revived. -/
  again : s.IsDone → ∀ ops, (∀ x ∈ s.session.history ops, x.2 ≠ .revive c) →
    (s.session.run ops).close c = (s.session.run ops, .ok ())

theorem one_teardown [Scheduler] {conn : Connection} (hc : w.connections.get? c = some conn)
    (ho : conn.closed = false) (hrun : (start w (others + 1)).run c schedule = some s) :
    OneTeardown w c conn others schedule s := by
  have hopen : w.isClosed c = false := by rw [Session.isClosed_eq hc, ho]
  have hsome : (w.connections.get? c).isSome = true := by rw [hc]; rfl
  have howned : ∀ i, schedule.head? = some i → Owned w c others i schedule.length s :=
    fun i => owned_of_head hopen hsome hrun
  have hclosed : s.IsDone → s.session = (w.close c).1 ∧
      s.results.Perm ((w.close c).2 :: List.replicate others (.ok ())) := by
    intro hdone
    obtain ⟨i, hi⟩ := head_of_done hrun hdone
    exact ⟨((howned i hi).done hdone).1, (howned i hi).results_perm hdone⟩
  exact {
    winner := fun i hi => (howned i hi).only_winner
    losers := fun i j s' hi hj => (howned i hi).turnsAway hj
    unblocked := fun j t => exists_step
    bounded := length_le_mostSteps hopen hsome hrun
    completes := exists_done hopen hsome hrun
    session := fun hdone => (hclosed hdone).1
    results := fun hdone => (hclosed hdone).2
    tally := by
      intro hdone
      rw [tally_of_perm _ _ (hclosed hdone).2, (hclosed hdone).1]
      rfl
    released := by
      intro hdone p pool hp
      rw [(hclosed hdone).1, releases_of_closedDown (Session.closedDown_close hc ho).1 hp]
    again := by
      intro hdone ops hops
      rw [(hclosed hdone).1] at hops ⊢
      exact close_again (Session.closedDown_close hc ho).1 hc hops }

section

attribute [local instance] Scheduler.exact

/-- Three threads close connection 1 of `mixedTracking`: number 1 comes first, number 0 looks at the
flag between the drain and the first close, and number 2 just before the release. -/
def threeClosers : List Nat := [1, 1, 1, 0, 1, 1, 1, 1, 1, 1, 1, 2, 1]

theorem one_teardown_mixedTracking : ∃ conn s,
    Session.mixedTracking.connections.get? 1 = some conn ∧ conn.closed = false ∧
      (start Session.mixedTracking 3).run 1 threeClosers = some s ∧ s.IsDone ∧
      OneTeardown Session.mixedTracking 1 conn 2 threeClosers s := by
  refine ⟨_, _, rfl, rfl, rfl, by decide, ?_⟩
  exact one_teardown rfl rfl rfl

end

end Crowd

end ConnLease
