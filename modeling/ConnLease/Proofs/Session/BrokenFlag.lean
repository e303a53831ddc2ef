import Mathlib.Data.List.Induction
import ConnLease.Proofs.Session.Errors

/-!
# The broken flag

Nothing but a mark or a fatal error sets the broken flag of a connection, and nothing clears it. So
the flag can be read off the run: it is set exactly if an operation so far has marked the connection
or reported a fatal error through it, by the classifier that the connection was made with.

Main statement: `exactly_broken`.
-/

namespace ConnLease.Session

/-! ## Refusals -/

/-- A refusal of a closed connection or statement. -/
def Reply.rejects : Reply → Bool
  | .outcome (.err (.connectionClosed _)) | .outcome (.err (.statementClosed _)) => true
  | _ => false

/-- The only errors that opening a statement through an open connection returns are the driver's. -/
theorem driver_of_openStatement {w : Session} {c : Nat} {conn : Connection}
    {call : Driver.OpenCall} {e : LeaseError} (hc : w.connections.get? c = some conn)
    (ho : conn.closed = false) (h : (w.openStatement c call).2 = .err e) :
    ∃ cause, e = .driver cause := by
  unfold openStatement at h
  rw [hc] at h
  dsimp only at h
  rw [if_neg (by simp [ho])] at h
  generalize (w.setWire c ((w.wire conn).openStatement call).1).closeIfAsked c = asked at h
  obtain ⟨after, _ | label⟩ := asked
  · dsimp only at h
    cases hr : ((w.wire conn).openStatement call).2 with
    | ok driver => rw [hr] at h; cases h
    | error cause => rw [hr] at h; cases h; exact ⟨cause, rfl⟩
  · cases h

section

variable [Scheduler]

/-- An operation that closes an open connection is not refused. -/
theorem not_rejects_of_close {w u : Session} {c : Nat} {op : Op}
    (h : (u, .close c) ∈ w.trail (w.moves op)) : (w.step op).2.rejects = false := by
  have hmem : .close c ∈ w.moves op := mem_of_mem_trail h
  obtain ⟨o, rfl⟩ := moves_belong w op _ hmem
  obtain ⟨conn, hheld⟩ := heldConnection?_of_mem hmem
  have hstep : (w.step (.connection c o)).2 = (w.performConnection c conn o).2 := by
    simp only [step, hheld]
  rw [hstep]
  rcases ensured_moves w _ _ h with hop | ⟨n, hop⟩ | ⟨call, hop⟩
  · cases hop
    have hreply : (w.performConnection c conn .close).2 =
        .outcome ((w.close c).2.map fun _ => .unit) := rfl
    rw [hreply]
    cases hr : (w.close c).2 with
    | ok value => rfl
    | panicked label => rfl
    | err e =>
      obtain ⟨s, cause, rfl⟩ := cleanup_of_close hr
      rfl
  · cases hop
    rfl
  · cases hop
    rcases openStatement_cases w c call with hnone | ⟨conn', hc, -, ho, -⟩
    · rw [hnone] at hmem
      cases hmem
    · simp only [performConnection]
      rcases hr : w.openStatement c call with ⟨after, s | e | label⟩
      · rfl
      · obtain ⟨cause, rfl⟩ := driver_of_openStatement hc ho (by rw [hr])
        rfl
      · rfl

theorem not_breaks_of_rejects {w : Session} {op : Op} (h : (w.step op).2.rejects = true)
    (c : Nat) (k : Classifier) : ¬ w.Breaks c k op := by
  rintro (⟨-, hreply⟩ | ⟨e, hreports, -⟩)
  · rw [hreply] at h
    cases h
  · cases hreports with
    | calling hreply => rw [hreply] at h; cases h
    | inspecting hreply => rw [hreply] at h; cases h
    | ofStatement hs howner hlives hreply => rw [hreply] at h; cases h
    | sweeping hx hopen hfailed =>
      rw [not_rejects_of_close hx] at h
      cases h

/-! ## Runs -/

/-- A connection is broken at the end of a run exactly if an operation of the run has broken it. -/
theorem isBroken_run_iff (ops : List Op) (c : Nat) :
    (run {} ops).isBroken c = true ↔ ∃ before op after, ops = before ++ op :: after ∧
      ∃ k, (run {} before).JudgesBy c k ∧ (run {} before).Breaks c k op := by
  induction ops using List.reverseRecOn with
  | nil => simp [isBroken]
  | append_singleton ops op ih => rw [run_snoc, isBroken_step_iff, ih, exists_split_snoc]

/-! ## Making connections -/

/-- The operation makes the connection `c` with a configuration. -/
inductive Makes (w : Session) (c : Nat) : Op → LeaseConfig → Prop
  | connect {p : Nat} {pool : Pool} {share : Option Nat} (held : w.heldPool? p = some pool)
      (reply : (w.step (.pool p (.connect share))).2 = .ok (.connected c true)) :
      Makes w c (.pool p (.connect share)) pool.config
  | connectPlain {p : Nat} {share : Option Nat}
      (reply : (w.step (.pool p (.connectPlain share))).2 = .ok (.connected c true)) :
      Makes w c (.pool p (.connectPlain share)) {}
  | addIdle {p : Nat} {pool : Pool} {share : Option Nat} (held : w.heldPool? p = some pool)
      (reply : (w.step (.pool p (.addIdle share))).2 = .ok (.idled c)) :
      Makes w c (.pool p (.addIdle share)) pool.config

/-- A connection is made by the first move of its operation. -/
theorem Makes.moves {w : Session} {c : Nat} {op : Op} {config : LeaseConfig}
    (h : w.Makes c op config) : c = w.connections.next ∧
      ∃ p journal held rest, w.moves op = .create p config journal held :: rest := by
  cases h with
  | @connect p pool share hp h =>
    rcases connect_cases w p share with ⟨-, what, hreply⟩ | ⟨pool', journal, hp', hmoves, hreply⟩
    · rw [hreply] at h
      cases h
    · rw [hreply] at h
      cases h
      obtain rfl : pool = pool' := Option.some.inj (hp.symm.trans hp')
      exact ⟨rfl, p, journal, true, [], hmoves⟩
  | @connectPlain p share h =>
    rcases connectPlain_cases w p share with ⟨-, what, hreply⟩ | ⟨journal, hmoves, hreply⟩
    · rw [hreply] at h
      cases h
    · rw [hreply] at h
      cases h
      exact ⟨rfl, p, journal, true, [], hmoves⟩
  | @addIdle p pool share hp h =>
    rcases addIdle_cases w p share with ⟨-, what, hreply⟩ | ⟨pool', journal, hp', hmoves, hreply⟩
    · rw [hreply] at h
      cases h
    · rw [hreply] at h
      cases h
      obtain rfl : pool = pool' := Option.some.inj (hp.symm.trans hp')
      exact ⟨rfl, p, journal, false, _, hmoves⟩

/-- The connection judges errors by the classifier of the configuration that it was made with. -/
theorem Makes.judgesBy {w : Session} {c : Nat} {op : Op} {config : LeaseConfig}
    (h : w.Makes c op config) : (w.step op).1.JudgesBy c config.classifier := by
  obtain ⟨rfl, p, journal, held, rest, hmoves⟩ := h.moves
  have hnew : (w.move (.create p config journal held)).connections.get? w.connections.next =
      w.created? (.create p config journal held) := by
    rw [get?_connections_move, if_neg (by simp [Move.connection?]), if_pos rfl]
  have hjudges : (w.move (.create p config journal held)).JudgesBy w.connections.next
      config.classifier := ⟨_, hnew, rfl⟩
  rw [step_eq_moves, hmoves, moveAll_cons]
  exact judgesBy_moveAll hjudges rest

theorem makes_of_create {w u : Session} {op : Op} {p : Nat} {config : LeaseConfig}
    {journal : Option Nat} {held : Bool}
    (h : (u, .create p config journal held) ∈ w.trail (w.moves op)) :
    w.Makes u.connections.next op config := by
  obtain ⟨share, rfl | rfl | rfl⟩ := moves_belong w op _ (mem_of_mem_trail h)
  · rcases connect_cases w p share with ⟨hmoves, -⟩ | ⟨pool, journal', hp, hmoves, hreply⟩
    · rw [hmoves] at h
      cases h
    · rw [hmoves] at h
      cases List.mem_singleton.1 h
      exact .connect hp hreply
  · rcases connectPlain_cases w p share with ⟨hmoves, -⟩ | ⟨journal', hmoves, hreply⟩
    · rw [hmoves] at h
      cases h
    · rw [hmoves] at h
      cases List.mem_singleton.1 h
      exact .connectPlain hreply
  · rcases addIdle_cases w p share with ⟨hmoves, -⟩ | ⟨pool, journal', hp, hmoves, hreply⟩
    · rw [hmoves] at h
      cases h
    · rw [hmoves] at h
      rcases List.mem_cons.1 h with h | h
      · cases h
        exact .addIdle hp hreply
      · cases List.mem_singleton.1 h

/-- A connection that is there after an operation and was not before has been made by it. -/
theorem exists_makes {w : Session} {op : Op} {c : Nat}
    (hbefore : w.connections.get? c = none)
    (hafter : ((w.step op).1.connections.get? c).isSome = true) :
    ∃ config, w.Makes c op config := by
  by_contra hnot
  have hnone : (w.step op).1.connections.get? c = none := by
    rw [step_eq_moves]
    refine (moveAll_induction (P := fun u => u.connections.get? c = none) ?_ hbefore).1
    rintro ⟨u, m⟩ hx hu
    rw [get?_connections_move, hu]
    split
    · rfl
    · split
      · rename_i hnew
        cases m with
        | create p config journal held =>
          exact absurd ⟨config, hnew ▸ makes_of_create hx⟩ hnot
        | _ => rfl
      · rfl
  rw [hnone] at hafter
  cases hafter

/-- In the run `ops` the connection `c` was made with a configuration. -/
def MadeWith (ops : List Op) (c : Nat) (config : LeaseConfig) : Prop :=
  ∃ before op after, ops = before ++ op :: after ∧ (run {} before).Makes c op config

theorem MadeWith.judgesBy {ops : List Op} {c : Nat} {config : LeaseConfig}
    (h : MadeWith ops c config) : (run {} ops).JudgesBy c config.classifier := by
  obtain ⟨before, op, after, rfl, hmakes⟩ := h
  rw [run_append]
  exact judgesBy_run hmakes.judgesBy after

/-- It has judged by that classifier all along. -/
theorem MadeWith.classifier_eq {before rest : List Op} {c : Nat} {config : LeaseConfig}
    {k : Classifier} (h : MadeWith (before ++ rest) c config)
    (hk : (run {} before).JudgesBy c k) : k = config.classifier := by
  have hend : (run {} (before ++ rest)).JudgesBy c k := by
    rw [run_append]
    exact judgesBy_run hk rest
  exact hend.unique h.judgesBy

theorem exists_madeWith {ops : List Op} {c : Nat}
    (h : ((run {} ops).connections.get? c).isSome = true) : ∃ config, MadeWith ops c config := by
  induction ops using List.reverseRecOn with
  | nil => simp at h
  | append_singleton ops op ih =>
    cases hbefore : (run {} ops).connections.get? c with
    | none =>
      rw [run_snoc] at h
      obtain ⟨config, hmakes⟩ := exists_makes hbefore h
      exact ⟨config, exists_split_snoc.2 (.inr hmakes)⟩
    | some conn =>
      obtain ⟨config, hmade⟩ := ih (by rw [hbefore]; rfl)
      exact ⟨config, exists_split_snoc.2 (.inl hmade)⟩

/-! ## The law -/

/-- The broken flags in the run `ops`, and after one more operation. -/
structure ExactlyBroken (ops : List Op) : Prop where
  /-- Every connection has been made with a configuration. -/
  made : ∀ c, ((run {} ops).connections.get? c).isSome = true → ∃ config, MadeWith ops c config
  /-- It is broken if and only if an operation of the run has marked it, or has reported an error
  through it that is fatal under the classifier of that configuration. -/
  broken : ∀ c config, MadeWith ops c config →
    ((run {} ops).isBroken c = true ↔ ∃ before op after, ops = before ++ op :: after ∧
      ((run {} before).Marks c op ∨
        ∃ e, (run {} before).Reports c op e ∧ (config.classifier.judge e).isFatal = true))
  /-- A broken connection stays broken, whatever comes later. -/
  sticky : ∀ c later, (run {} ops).isBroken c = true → (run {} (ops ++ later)).isBroken c = true
  /-- An error that is reported through one connection leaves the flags of the others alone. -/
  others : ∀ c d op e, (run {} ops).Reports d op e → c ≠ d →
    (run {} (ops ++ [op])).isBroken c = (run {} ops).isBroken c
  /-- Errors without a SQLSTATE leave the flag alone. -/
  stateless : ∀ c op, ¬ (run {} ops).Marks c op →
    (∀ e, (run {} ops).Reports c op e → e.sqlState = none) →
      (run {} (ops ++ [op])).isBroken c = (run {} ops).isBroken c
  /-- So does a refusal of a closed connection or statement, for all connections. -/
  refused : ∀ c op, ((run {} ops).step op).2.rejects = true →
    (run {} (ops ++ [op])).isBroken c = (run {} ops).isBroken c
  /-- A connection that lives at the end has lived ever since it was made, so all errors of its
  statements were reported through it. -/
  lives : ∀ before after c, ops = before ++ after →
    ((run {} before).connections.get? c).isSome = true → (run {} ops).connectionLives c = true →
      (run {} before).connectionLives c = true

theorem exactly_broken (ops : List Op) : ExactlyBroken ops := by
  constructor
  case made => exact fun c => exists_madeWith
  case broken =>
    intro c config hmade
    rw [isBroken_run_iff]
    constructor
    · rintro ⟨before, op, after, rfl, k, hk, hbreaks⟩
      rw [hmade.classifier_eq hk] at hbreaks
      exact ⟨before, op, after, rfl, hbreaks⟩
    · rintro ⟨before, op, after, rfl, hbreaks⟩
      have hfound : (run {} before).Breaks c config.classifier op := hbreaks
      obtain ⟨k, hk⟩ := exists_judgesBy hfound.made
      rw [hmade.classifier_eq hk] at hk
      exact ⟨before, op, after, rfl, config.classifier, hk, hfound⟩
  case sticky =>
    intro c later hbroken
    rw [run_append]
    exact isBroken_run hbroken later
  case others =>
    intro c d op e hreports hother
    rw [run_snoc]
    refine isBroken_step_of_not ?_
    intro k hbreaks
    have hsubject := hbreaks.subject
    rw [hreports.subject] at hsubject
    exact hother (Option.some.inj hsubject).symm
  case stateless =>
    intro c op hmarks hstates
    rw [run_snoc]
    refine isBroken_step_of_not ?_
    rintro k (hmarked | ⟨e, hreports, hfatal⟩)
    · exact hmarks hmarked
    · have hnone := hstates e hreports
      simp [Classifier.judge, hnone, Verdict.isFatal] at hfatal
  case refused =>
    intro c op hrejects
    rw [run_snoc]
    exact isBroken_step_of_not (not_breaks_of_rejects hrejects c)
  case lives =>
    rintro before after c rfl hmade hlives
    rw [run_append] at hlives
    exact lives_of_run hmade hlives

end

section

attribute [local instance] Scheduler.exact

/-- The second connection closes a statement of the first, and the driver is gone by then: that
breaks the second and not the first. -/
example :
    let ops : List Op :=
      [.newPool .recycling, .pool 0 (.connect none), .pool 0 (.connect none),
        .connection 1 (.openStatement (.prepare "A" {})), .connection 2 (.register 1),
        .script 1 (.failClose "A" { message := "gone", sqlState := some ⟨"08006"⟩ }),
        .connection 2 (.closeConcurrently 2)]
    (run {} ops).isBroken 1 = false ∧ (run {} ops).isBroken 2 = true := by
  decide

end

end ConnLease.Session
