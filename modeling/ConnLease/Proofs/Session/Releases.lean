import ConnLease.Proofs.Roster
import ConnLease.Proofs.Session.Effects

/-!
# One release for each borrow cycle

Over any run, the releases of a connection that the pools have noted down and the closes that found
its owner gone are together as many as the revivals that found it closed, and one more while it is
closed. Each release goes to the pool that owns the connection at that moment, and to no other.
-/

namespace ConnLease

/-! ## Releases of a pool -/

/-- How many releases of a connection a pool has noted down. -/
def Pool.releasesOf (pool : Pool) (c : Nat) : Nat := pool.releases.countP (·.connection == c)

theorem Pool.releasesOf_receive (pool : Pool) (m : Metadata) (c : Nat) :
    (pool.receive m).releasesOf c = pool.releasesOf c + if m.connection = c then 1 else 0 := by
  unfold Pool.releasesOf
  rw [Pool.releases_receive, List.countP_append]
  by_cases hc : m.connection = c <;> simp [Metadata.release, hc]

namespace Session

/-! ## What is counted -/

/-- Whether a connection is open and belongs to the pool `p`. -/
def isOutOf (w : Session) (c p : Nat) : Bool :=
  (w.connections.get? c).any fun conn => !conn.closed && conn.owner == p

def ownerLives (w : Session) (c : Nat) : Bool :=
  (w.connections.get? c).any fun conn => w.poolLives conn.owner

/-- How many releases of a connection all pools together have noted down. -/
def releaseCount (w : Session) (c : Nat) : Nat := (w.pools.toList.map (·.releasesOf c)).sum

/-- How many closes of a history found a connection open and its owner gone. -/
def orphanCount (c : Nat) (history : List (Session × Move)) : Nat :=
  history.countP fun x => x.2 = .close c && !x.1.isClosed c && !x.1.ownerLives c

/-- How many revivals of a history found a connection closed. -/
def revivalCount (c : Nat) (history : List (Session × Move)) : Nat :=
  history.countP fun x => x.2 = .revive c && x.1.isReturned c

/-! ## One move -/

/-- A pool that is there notes down one release of a connection when that is closed, was open and
belongs to the pool, if the pool is held; nothing else adds to its releases of the connection. -/
theorem releasesOf_changedPool {w : Session} {m : Move} {p : Nat} (hp : w.poolOf? m = some p)
    (pool : Pool) (c : Nat) :
    (w.changedPool m pool).releasesOf c =
      pool.releasesOf c + if m = .close c ∧ pool.held = true then 1 else 0 := by
  cases m with
  | close d =>
    cases hc : w.connections.get? d with
    | none => simp [poolOf?, hc] at hp
    | some conn =>
      simp only [changedPool, hc]
      cases hh : pool.held with
      | false => simp
      | true =>
        rw [if_pos rfl, Pool.releasesOf_receive]
        by_cases hd : d = c <;> simp [closedMetadata, hd]
  | _ =>
    rw [if_neg (by simp)]
    unfold Pool.releasesOf
    rw [changedPool_releases (by simp)]
    rfl

theorem poolOf?_close {w : Session} {c p : Nat} :
    w.poolOf? (.close c) = some p ↔ w.isOutOf c p = true := by
  simp only [poolOf?, isOutOf]
  cases w.connections.get? c with
  | none => simp
  | some conn => cases ho : conn.closed <;> simp [Option.filter_some, ho]

/-- A pool notes down one release of a connection when the connection is closed, was open and
belongs to the pool, provided that the pool is held. Nothing else adds to its releases of it. -/
theorem releasesOf_move [Scheduler] {w : Session} {p : Nat} {pool : Pool}
    (hp : w.pools.get? p = some pool) (m : Move) (c : Nat) :
    ∃ pool', (w.move m).pools.get? p = some pool' ∧ pool'.releasesOf c = pool.releasesOf c +
      if m = .close c ∧ w.isOutOf c p = true ∧ pool.held = true then 1 else 0 := by
  have hold : p ≠ w.pools.next := Roster.ne_next_of_get? hp
  rw [get?_pools_move, hp]
  by_cases hm : w.poolOf? m = some p
  · refine ⟨w.changedPool m pool, by rw [if_pos hm]; rfl, ?_⟩
    rw [releasesOf_changedPool hm]
    by_cases hclose : m = .close c
    · rw [hclose] at hm
      simp [hclose, poolOf?_close.1 hm]
    · simp [hclose]
  · refine ⟨pool, by rw [if_neg hm, if_neg hold], ?_⟩
    have hnone : ¬ (m = .close c ∧ w.isOutOf c p = true ∧ pool.held = true) := by
      rintro ⟨rfl, hout, -⟩
      exact hm (poolOf?_close.2 hout)
    rw [if_neg hnone]
    rfl

/-- A pool that is new has no releases. -/
theorem releases_of_added [Scheduler] {w : Session} {m : Move} {p : Nat} {pool : Pool}
    (hold : w.pools.get? p = none) (hnew : (w.move m).pools.get? p = some pool) :
    pool.releases = [] := addedPool?_releases (addedPool?_of_new hold hnew)

/-- Whether a move closes the connection `c`, finds it open, and finds its owner alive. -/
def notifies (w : Session) (m : Move) (c : Nat) : Bool :=
  m = .close c && !w.isClosed c && w.ownerLives c

theorem notifies_iff {w : Session} {m : Move} {c : Nat} :
    w.notifies m c = true ↔ m = .close c ∧ ∃ p pool,
      w.isOutOf c p = true ∧ w.pools.get? p = some pool ∧ pool.held = true := by
  unfold notifies isClosed ownerLives isOutOf poolLives
  cases hc : w.connections.get? c with
  | none => simp
  | some conn =>
    simp only [Option.any_some, Bool.and_eq_true, decide_eq_true_eq, beq_iff_eq, and_assoc]
    constructor
    · rintro ⟨rfl, hopen, hlives⟩
      cases hp : w.pools.get? conn.owner with
      | none => rw [hp] at hlives; cases hlives
      | some pool =>
        rw [hp] at hlives
        exact ⟨rfl, conn.owner, pool, hopen, rfl, hp, hlives⟩
    · rintro ⟨rfl, p, pool, hopen, rfl, hp, hheld⟩
      refine ⟨rfl, hopen, ?_⟩
      rw [hp]
      exact hheld

/-- A move that is addressed to no pool, or to none that is there, notifies nobody. -/
theorem notifies_of_gone {w : Session} {m : Move}
    (hgone : ∀ p, w.poolOf? m = some p → w.pools.get? p = none) (c : Nat) :
    w.notifies m c = false := by
  rw [Bool.eq_false_iff]
  intro h
  obtain ⟨rfl, p, pool, hout, hp, -⟩ := notifies_iff.1 h
  rw [hgone p (poolOf?_close.2 hout)] at hp
  cases hp

theorem notifies_iff_of_poolOf? {w : Session} {m : Move} {p c : Nat} {pool : Pool}
    (hm : w.poolOf? m = some p) (hp : w.pools.get? p = some pool) :
    w.notifies m c = true ↔ m = .close c ∧ pool.held = true := by
  rw [notifies_iff]
  constructor
  · rintro ⟨rfl, q, pool', hout, hq, hheld⟩
    obtain rfl : p = q := Option.some.inj (hm.symm.trans (poolOf?_close.2 hout))
    obtain rfl : pool = pool' := Option.some.inj (hp.symm.trans hq)
    exact ⟨rfl, hheld⟩
  · rintro ⟨rfl, hheld⟩
    exact ⟨rfl, p, pool, poolOf?_close.1 hm, hp, hheld⟩

theorem releaseCount_move [Scheduler] (w : Session) (m : Move) (c : Nat) :
    (w.move m).releaseCount c = w.releaseCount c + (w.notifies m c).toNat := by
  unfold releaseCount
  cases hm : w.poolOf? m with
  | some p =>
    rw [pools_move hm]
    cases hp : w.pools.get? p with
    | none =>
      have hgone : ∀ q, w.poolOf? m = some q → w.pools.get? q = none := by
        intro q hq
        obtain rfl : p = q := Option.some.inj (hm.symm.trans hq)
        exact hp
      rw [notifies_of_gone hgone, Roster.modify_of_none hp]
      rfl
    | some pool =>
      have hsum := Roster.sum_modify (Pool.releasesOf · c) (w.changedPool m) hp
      have hone : (w.changedPool m pool).releasesOf c =
          pool.releasesOf c + (w.notifies m c).toNat := by
        rw [releasesOf_changedPool hm]
        simp only [← notifies_iff_of_poolOf? hm hp]
        cases w.notifies m c <;> rfl
      omega
  | none =>
    rw [notifies_of_gone (by rw [hm]; intro p h; cases h), Bool.toNat_false]
    cases hn : m.addedPool? with
    | some pool =>
      have hfresh : pool.releasesOf c = 0 := by
        unfold Pool.releasesOf
        rw [addedPool?_releases hn, List.countP_nil]
      rw [pools_move_of_added hn, Roster.sum_push, hfresh]
    | none =>
      rw [pools_move_of_unaddressed hm hn]
      rfl

/-! ## Whole runs -/

theorem orphanCount_append (c : Nat) (h more : List (Session × Move)) :
    orphanCount c (h ++ more) = orphanCount c h + orphanCount c more :=
  List.countP_append

theorem revivalCount_append (c : Nat) (h more : List (Session × Move)) :
    revivalCount c (h ++ more) = revivalCount c h + revivalCount c more :=
  List.countP_append

/-- The books of a connection balance over one move. -/
theorem balance_move [Scheduler] (w : Session) (m : Move) (c : Nat) :
    (w.move m).releaseCount c + orphanCount c [(w, m)] + (w.isReturned c).toNat =
      w.releaseCount c + revivalCount c [(w, m)] + ((w.move m).isReturned c).toNat := by
  rw [releaseCount_move, isReturned_move]
  unfold orphanCount revivalCount notifies
  simp only [List.countP_singleton]
  by_cases hrevive : m = .revive c
  · subst hrevive
    cases w.isReturned c <;> simp
  · by_cases hclose : m = .close c
    · subst hclose
      unfold isReturned isClosed ownerLives
      cases hc : w.connections.get? c with
      | none => simp
      | some conn =>
        cases ho : conn.closed <;> cases hl : w.poolLives conn.owner <;> simp [ho, hl]
    · simp [hrevive, hclose]

theorem balance_trail [Scheduler] (w : Session) (ms : List Move) (c : Nat) :
    (w.moveAll ms).releaseCount c + orphanCount c (w.trail ms) + (w.isReturned c).toNat =
      w.releaseCount c + revivalCount c (w.trail ms) + ((w.moveAll ms).isReturned c).toNat := by
  induction ms generalizing w with
  | nil => simp [trail, orphanCount, revivalCount]
  | cons m ms ih =>
    have hm := balance_move w m c
    have hms := ih (w.move m)
    have hsplit : w.trail (m :: ms) = [(w, m)] ++ (w.move m).trail ms := rfl
    rw [moveAll_cons, hsplit, orphanCount_append, revivalCount_append]
    omega

theorem balance_run [Scheduler] (w : Session) (ops : List Op) (c : Nat) :
    (w.run ops).releaseCount c + orphanCount c (w.history ops) + (w.isReturned c).toNat =
      w.releaseCount c + revivalCount c (w.history ops) + ((w.run ops).isReturned c).toNat := by
  induction ops generalizing w with
  | nil => simp [history, orphanCount, revivalCount]
  | cons op ops ih =>
    have hop := balance_trail w (w.moves op) c
    have hops := ih (w.step op).1
    rw [← step_eq_moves] at hop
    rw [run_cons, history, orphanCount_append, revivalCount_append]
    omega

/-- A close of an open connection returns what its sweep comes to, whoever owns the connection. -/
theorem close_snd {w : Session} {c : Nat} (hopen : w.isClosed c = false) :
    (w.close c).2 = (w.sweep c (w.closeOrder c)).2.outcome c := by
  cases hc : w.connections.get? c with
  | none => simp [isClosed, hc] at hopen
  | some conn =>
    rw [isClosed_eq hc] at hopen
    rw [(closedDown_close hc hopen).2, (swept_sweep w c (w.closeOrder c)).2]

/-- The releases of the connection `c` in the run `ops`. -/
structure OneReleasePerCycle [Scheduler] (ops : List Op) (c : Nat) : Prop where
  balance : (run {} ops).releaseCount c + orphanCount c (history {} ops) =
    revivalCount c (history {} ops) + ((run {} ops).isReturned c).toNat
  /-- Nothing but the history happens in the run. -/
  complete : run {} ops = moveAll {} ((history {} ops).map (·.2))
  /-- A close notifies the owner of the moment and no other pool, unless the owner is gone. -/
  notified : ∀ w m, (w, m) ∈ history {} ops → ∀ p pool, w.pools.get? p = some pool →
    ∃ pool', (w.move m).pools.get? p = some pool' ∧ pool'.releasesOf c = pool.releasesOf c +
      if m = .close c ∧ w.isOutOf c p = true ∧ pool.held = true then 1 else 0
  fresh : ∀ w m, (w, m) ∈ history {} ops → ∀ p pool, w.pools.get? p = none →
    (w.move m).pools.get? p = some pool → pool.releases = []
  outcome : ∀ w, (w, .close c) ∈ history {} ops → w.isClosed c = false →
    (w.close c).2 = (w.sweep c (w.closeOrder c)).2.outcome c

/-- In every run, every borrow cycle of every connection ends in one release, or in a close that
finds the owner gone. -/
theorem one_release_per_cycle [Scheduler] (ops : List Op) (c : Nat) : OneReleasePerCycle ops c where
  balance := by
    have hrun := balance_run {} ops c
    have hstart : releaseCount {} c = 0 := rfl
    have hnone : isReturned {} c = false := by simp [isReturned]
    rw [hstart, hnone, Bool.toNat_false] at hrun
    omega
  complete := run_eq_moveAll {} ops
  notified := fun _ m _ _ _ hp => releasesOf_move hp m c
  fresh := fun _ _ _ _ _ => releases_of_added
  outcome := fun _ _ hopen => close_snd hopen

end Session

end ConnLease
