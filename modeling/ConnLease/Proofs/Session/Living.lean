import ConnLease.Proofs.Session.Breakage
import ConnLease.Proofs.Session.Places

/-!
# Connections that are out of reach

A connection lives while a caller holds it or a living pool keeps it idle. One that has stopped
living is out of reach for good: no operation lends it, closes it or keeps it again.
-/

namespace ConnLease.Session

/-- The connection `c` has been made and does not live any more. -/
structure Gone (w : Session) (c : Nat) : Prop where
  made : (w.connections.get? c).isSome = true
  unheld : ¬ w.Holds c
  unkept : ∀ p, w.poolLives p = true → ¬ w.IdleIn p c

theorem poolLives_iff {w : Session} {p : Nat} :
    w.poolLives p = true ↔ ∃ pool, w.pools.get? p = some pool ∧ pool.held = true := by
  unfold poolLives
  cases w.pools.get? p with
  | none => simp
  | some pool => simp

theorem connectionLives_iff {w : Session} {c : Nat} :
    w.connectionLives c = true ↔ (w.connections.get? c).isSome = true ∧
      (w.Holds c ∨ ∃ p, w.poolLives p = true ∧ w.IdleIn p c) := by
  have hkept : (w.pools.toList.any fun pool => pool.held && pool.idle.contains c) = true ↔
      ∃ p, w.poolLives p = true ∧ w.IdleIn p c := by
    simp only [List.any_eq_true, Bool.and_eq_true, List.contains_iff_mem, Roster.mem_toList]
    constructor
    · rintro ⟨pool, ⟨p, hp⟩, hheld, hc⟩
      exact ⟨p, poolLives_iff.2 ⟨pool, hp, hheld⟩, pool, hp, hc⟩
    · rintro ⟨p, hlives, pool, hp, hc⟩
      rw [poolLives_eq hp] at hlives
      exact ⟨pool, ⟨p, hp⟩, hlives, hc⟩
  unfold connectionLives Holds
  cases hc : w.connections.get? c with
  | none => simp
  | some conn =>
    dsimp only
    rw [Bool.or_eq_true, hkept]
    simp

theorem gone_iff {w : Session} {c : Nat} :
    w.Gone c ↔ (w.connections.get? c).isSome = true ∧ w.connectionLives c = false := by
  rw [← Bool.not_eq_true, connectionLives_iff]
  constructor
  · rintro ⟨hmade, hunheld, hunkept⟩
    refine ⟨hmade, ?_⟩
    rintro ⟨-, hheld | ⟨p, hlives, hidle⟩⟩
    · exact hunheld hheld
    · exact hunkept p hlives hidle
  · rintro ⟨hmade, hnot⟩
    exact ⟨hmade, fun h => hnot ⟨hmade, .inl h⟩, fun p hp hc => hnot ⟨hmade, .inr ⟨p, hp, hc⟩⟩⟩

/-! ## What keeps the living alive -/

/-- Whether a connection lives depends on who holds it and on the pools. -/
theorem connectionLives_congr {w w' : Session} {c : Nat} (hpools : w'.pools = w.pools)
    (hheld : (w'.connections.get? c).map (·.held) = (w.connections.get? c).map (·.held)) :
    w'.connectionLives c = w.connectionLives c := by
  unfold connectionLives
  rw [hpools]
  cases hc : w.connections.get? c with
  | none =>
    rw [hc, Option.map_none, Option.map_eq_none_iff] at hheld
    rw [hheld]
  | some conn =>
    rw [hc] at hheld
    obtain ⟨conn', hc', hsame⟩ := Option.map_eq_some_iff.1 hheld
    rw [hc']
    dsimp only
    rw [hsame]

variable [Scheduler]

theorem connectionLives_closeAtDriver (w : Session) (s c : Nat) :
    (w.move (.closeAtDriver s)).connectionLives c = w.connectionLives c :=
  connectionLives_congr (closeAtDriver_fields w s).2.1
    (congrArg (fun cs => (cs.get? c).map (·.held)) (closeAtDriver_fields w s).2.2.1)

theorem connectionLives_untrack (w : Session) (d s c : Nat) :
    (w.move (.untrack d s)).connectionLives c = w.connectionLives c := by
  refine connectionLives_congr (unregister_fields w d s).2.2.1 ?_
  rw [get?_connections_move]
  split
  · cases w.connections.get? c with
    | none => rfl
    | some conn => exact congrArg some (changed_held w (.untrack d s) conn)
  · split
    · rename_i hnew
      rw [hnew, Roster.get?_next]
      rfl
    · rfl

omit [Scheduler] in
/-- The owner of a statement is found as long as it lives. -/
theorem ownerOf?_eq_some_iff {w : Session} {statement : Statement} {c : Nat} :
    w.ownerOf? statement = some c ↔ statement.connection = c ∧ w.connectionLives c = true := by
  unfold ownerOf?
  rw [Option.ite_none_right_eq_some, Option.some.injEq]
  constructor
  · rintro ⟨hlives, rfl⟩
    exact ⟨rfl, hlives⟩
  · rintro ⟨rfl, hlives⟩
    exact ⟨hlives, rfl⟩

omit [Scheduler] in
theorem ownerOf?_congr {w w' : Session} {statement : Statement}
    (h : w'.connectionLives statement.connection = w.connectionLives statement.connection) :
    w'.ownerOf? statement = w.ownerOf? statement := by
  unfold ownerOf?
  rw [h]

/-! ## Once gone, always gone -/

theorem poolLives_of_move {w : Session} {m : Move} {p : Nat} {pool : Pool}
    (hp : w.pools.get? p = some pool) (h : (w.move m).poolLives p = true) :
    w.poolLives p = true := by
  rw [poolLives_eq hp, ← Bool.not_eq_false]
  intro hgone
  obtain ⟨pool', hp', hgone'⟩ := not_held_move ⟨pool, hp, hgone⟩ m
  rw [poolLives_eq hp', hgone'] at h
  cases h

theorem holds_of_move {w : Session} {m : Move} {c : Nat}
    (hmade : (w.connections.get? c).isSome = true) (hlend : m ≠ .lend c)
    (h : (w.move m).Holds c) : w.Holds c := by
  obtain ⟨conn, hc⟩ := Option.isSome_iff_exists.1 hmade
  obtain ⟨conn', hc', hheld'⟩ := h
  have hold : c ≠ w.connections.next := Roster.ne_next_of_get? hc
  rw [get?_connections_move, if_neg hold, hc] at hc'
  split at hc'
  · rename_i haddressed
    cases hc'
    rw [changed_held] at hheld'
    split at hheld'
    · cases haddressed
      exact absurd rfl hlend
    · cases hheld'
    · exact ⟨conn, hc, hheld'⟩
  · cases hc'
    exact ⟨conn, hc, hheld'⟩

theorem gone_move {w : Session} {m : Move} {c : Nat} (h : w.Gone c) (hlend : m ≠ .lend c)
    (hkeep : ∀ p, m ≠ .keepIdle p c) (hclose : m ≠ .close c) : (w.move m).Gone c where
  made := isSome_connections_move h.made m
  unheld hheld := h.unheld (holds_of_move h.made hlend hheld)
  unkept := by
    intro p hlives hidle
    rcases idleIn_move_cases hidle with hidle | hm | ⟨hm, -⟩
    · obtain ⟨pool, hp, hc⟩ := hidle
      exact h.unkept p (poolLives_of_move hp hlives) ⟨pool, hp, hc⟩
    · exact hkeep p hm
    · exact hclose hm

/-- A borrow lends a connection that was idle. -/
theorem idleIn_of_lend {w : Session} {p c : Nat} (h : .lend c ∈ w.borrowMoves p) :
    w.IdleIn p c := by
  unfold borrowMoves at h
  cases hp : w.pools.get? p with
  | none => rw [hp] at h; cases h
  | some pool =>
    rw [hp] at h
    dsimp only at h
    cases hlast : pool.idle.getLast? with
    | none => rw [hlast] at h; cases h
    | some d =>
      have hidle : w.IdleIn p d := ⟨pool, hp, List.mem_of_getLast? hlast⟩
      rw [hlast] at h
      dsimp only at h
      have hsame : c = d := by
        split at h
        · split at h
          · simpa using h
          · simp at h
        · simpa using h
      rwa [hsame]

/-- No operation lends, keeps or closes a connection that is gone. -/
theorem gone_out_of_reach {w : Session} {c : Nat} (h : w.Gone c) {op : Op} {m : Move}
    (hm : m ∈ w.moves op) : m ≠ .lend c ∧ (∀ p, m ≠ .keepIdle p c) ∧ m ≠ .close c := by
  refine ⟨?_, ?_, ?_⟩
  · rintro rfl
    obtain ⟨p, rfl⟩ := moves_belong w op _ hm
    simp only [moves] at hm
    cases hheld : w.heldPool? p with
    | none => rw [hheld] at hm; cases hm
    | some pool =>
      rw [hheld] at hm
      have hlives : w.poolLives p = true :=
        poolLives_iff.2 ⟨pool, Option.filter_eq_some_iff.1 hheld⟩
      exact h.unkept p hlives (idleIn_of_lend hm)
  · rintro p rfl
    obtain ⟨conn, hc⟩ := Option.isSome_iff_exists.1 h.made
    exact absurd (keepIdle_fresh hm) (Roster.ne_next_of_get? hc)
  · rintro rfl
    obtain ⟨o, rfl⟩ := moves_belong w op _ hm
    obtain ⟨conn, hheld⟩ := heldConnection?_of_mem hm
    exact h.unheld ⟨conn, Option.filter_eq_some_iff.1 hheld⟩

theorem gone_step {w : Session} {c : Nat} (h : w.Gone c) (op : Op) : (w.step op).1.Gone c := by
  rw [step_eq_moves]
  refine (moveAll_induction (P := (·.Gone c)) ?_ h).1
  intro x hx hgone
  obtain ⟨hlend, hkeep, hclose⟩ := gone_out_of_reach h (mem_of_mem_trail hx)
  exact gone_move hgone hlend hkeep hclose

/-- A connection that lives after an operation has lived before it, unless it is new. -/
theorem lives_of_step {w : Session} {c : Nat} {op : Op}
    (hmade : (w.connections.get? c).isSome = true)
    (h : (w.step op).1.connectionLives c = true) : w.connectionLives c = true := by
  rw [← Bool.not_eq_false]
  intro hdead
  have hgone := gone_step (gone_iff.2 ⟨hmade, hdead⟩) op
  rw [(gone_iff.1 hgone).2] at h
  cases h

/-- A connection that lives at the end of a run has lived ever since it was made. -/
theorem lives_of_run {w : Session} {c : Nat} {ops : List Op}
    (hmade : (w.connections.get? c).isSome = true)
    (h : (w.run ops).connectionLives c = true) : w.connectionLives c = true := by
  induction ops generalizing w with
  | nil => exact h
  | cons op ops ih =>
    have hstep : ((w.run [op]).connections.get? c).isSome = true :=
      isSome_connections_run hmade [op]
    exact lives_of_step hmade (ih hstep h)

end ConnLease.Session
