import ConnLease.Proofs.Session.Occasions
import ConnLease.Proofs.Session.Quiescence
import ConnLease.Proofs.Session.Releases

/-!
# The books of a pool

Over any run, the connections that `addIdle` put into a recycling pool and the releases that the
pool received are together as many as its idle connections, its discarded ones, and the borrows that
found one idle. Such a borrow counts whether or not it goes on to lend the connection. The balance
is kept by every single move (`booked_move`): a release adds to one of the two lists, and eviction
only carries connections from the idle ones to the discarded ones.
-/

namespace ConnLease

/-- A pool that recycles puts each connection that comes back into one of its two lists. -/
theorem Pool.stock_receive {pool : Pool} (hrecycles : pool.recycles = true) (m : Metadata) :
    (pool.receive m).idle.length + (pool.receive m).discarded.length =
      pool.idle.length + pool.discarded.length + 1 := by
  rw [Pool.idle_receive, Pool.discarded_receive, hrecycles]
  cases m.isReusable with
  | true => simp [Nat.add_right_comm]
  | false => simp [Nat.add_assoc]

namespace Session

/-! ## What is counted -/

/-- The operations of a run, each with the session that it finds. -/
def calls [Scheduler] (w : Session) : List Op → List (Session × Op)
  | [] => []
  | op :: ops => (w, op) :: (w.step op).1.calls ops

/-- Whether an operation is a call of `addIdle` on the pool `p` that is answered with a
connection. -/
def addsIdle [Scheduler] (w : Session) (p : Nat) (op : Op) : Bool :=
  match op, (w.step op).2 with
  | .pool q (.addIdle _), .outcome (.ok (.idled _)) => q == p
  | _, _ => false

/-- Whether an operation is a borrow from the pool `p`, and finds it with an idle connection. -/
def borrowsIdle (w : Session) (p : Nat) : Op → Bool
  | .pool q .borrow => q == p && (w.heldPool? q).any (!·.idle.isEmpty)
  | _ => false

/-- Whether a move puts a connection into the pool `p` by hand. -/
def keeps (w : Session) (p : Nat) : Move → Bool
  | .keepIdle q _ => q == p && (w.pools.get? q).isSome
  | _ => false

/-- Whether a move takes a connection out of the pool `p`. -/
def takes (w : Session) (p : Nat) : Move → Bool
  | .takeIdle q => q == p && (w.pools.get? q).any (!·.idle.isEmpty)
  | _ => false

/-- Whether a move gives a connection back to the pool `p`. -/
def givesBack (w : Session) (p : Nat) : Move → Bool
  | .close c => w.isOutOf c p && w.poolLives p
  | _ => false

/-- How often something happens in a list of operations or moves, each with the session that it
finds. -/
def occurrences {α : Type} (happens : Session → α → Bool) (xs : List (Session × α)) : Nat :=
  xs.countP fun x => happens x.1 x.2

theorem occurrences_append {α : Type} (happens : Session → α → Bool)
    (xs more : List (Session × α)) :
    occurrences happens (xs ++ more) = occurrences happens xs + occurrences happens more :=
  List.countP_append

theorem occurrences_singleton {α : Type} (happens : Session → α → Bool) (w : Session) (a : α) :
    occurrences happens [(w, a)] = (happens w a).toNat := by
  unfold occurrences
  rw [List.countP_singleton]
  cases happens w a <;> rfl

theorem occurrences_cons {α : Type} (happens : Session → α → Bool) (w : Session) (a : α)
    (xs : List (Session × α)) :
    occurrences happens ((w, a) :: xs) = (happens w a).toNat + occurrences happens xs := by
  rw [← List.singleton_append, occurrences_append, occurrences_singleton]

theorem occurrences_eq_zero {α : Type} {happens : Session → α → Bool}
    {xs : List (Session × α)} (h : ∀ w a, (w, a) ∈ xs → happens w a = false) :
    occurrences happens xs = 0 := by
  refine List.countP_eq_zero.2 ?_
  rintro ⟨w, a⟩ hx
  simp [h w a hx]

/-! ## One move -/

theorem nothing_of_unaddressed {w : Session} {p : Nat} {m : Move} (hm : w.poolOf? m ≠ some p) :
    w.keeps p m = false ∧ w.takes p m = false ∧ w.givesBack p m = false := by
  cases m with
  | keepIdle q c =>
    have hq : q ≠ p := fun e => hm (by rw [e]; rfl)
    exact ⟨by simp [keeps, hq], rfl, rfl⟩
  | takeIdle q =>
    have hq : q ≠ p := fun e => hm (by rw [e]; rfl)
    exact ⟨rfl, by simp [takes, hq], rfl⟩
  | close c =>
    have hout : w.isOutOf c p = false := by
      rw [Bool.eq_false_iff]
      exact fun h => hm (poolOf?_close.2 h)
    exact ⟨rfl, rfl, by simp [givesBack, hout]⟩
  | _ => exact ⟨rfl, rfl, rfl⟩

theorem nothing_of_missing {w : Session} {p : Nat} (hp : w.pools.get? p = none) (m : Move) :
    w.keeps p m = false ∧ w.takes p m = false ∧ w.givesBack p m = false := by
  cases m with
  | keepIdle q c =>
    refine ⟨?_, rfl, rfl⟩
    by_cases hq : q = p
    · simp [keeps, hq, hp]
    · simp [keeps, hq]
  | takeIdle q =>
    refine ⟨rfl, ?_, rfl⟩
    by_cases hq : q = p
    · simp [takes, hq, hp]
    · simp [takes, hq]
  | close c => exact ⟨rfl, rfl, by simp [givesBack, poolLives, hp]⟩
  | _ => exact ⟨rfl, rfl, rfl⟩

/-- What the move `m`, made in `w`, does to the books of the pool `p`, which was `pool` and is
`pool'` now. -/
structure Booked (w : Session) (p : Nat) (m : Move) (pool pool' : Pool) : Prop where
  recycles : pool'.recycles = pool.recycles
  releases : if w.givesBack p m then ∃ r, pool'.releases = pool.releases ++ [r]
    else pool'.releases = pool.releases
  balance : pool.recycles = true →
    (w.keeps p m).toNat + (w.givesBack p m).toNat + (pool.idle.length + pool.discarded.length) =
      pool'.idle.length + pool'.discarded.length + (w.takes p m).toNat

theorem Booked.prefix {w : Session} {p : Nat} {m : Move} {pool pool' : Pool}
    (h : Booked w p m pool pool') : pool.releases <+: pool'.releases := by
  have hreleases := h.releases
  split at hreleases
  · obtain ⟨r, hreleases⟩ := hreleases
    rw [hreleases]
    exact List.prefix_append _ _
  · exact hreleases ▸ List.prefix_rfl

theorem Booked.count {w : Session} {p : Nat} {m : Move} {pool pool' : Pool}
    (h : Booked w p m pool pool') :
    pool'.releases.length = pool.releases.length + (w.givesBack p m).toNat := by
  have hreleases := h.releases
  split at hreleases
  · rename_i hback
    obtain ⟨r, hreleases⟩ := hreleases
    rw [hreleases, List.length_append, hback]
    rfl
  · rename_i hback
    rw [hreleases, Bool.eq_false_iff.2 hback]
    rfl

theorem booked_of_unaddressed {w : Session} {p : Nat} {m : Move} (hm : w.poolOf? m ≠ some p)
    (pool : Pool) : Booked w p m pool pool := by
  obtain ⟨hkeeps, htakes, hback⟩ := nothing_of_unaddressed hm
  refine ⟨rfl, by simp [hback], fun _ => ?_⟩
  rw [hkeeps, htakes, hback]
  simp

theorem booked_close {w : Session} {p c : Nat} {pool : Pool} (hp : w.pools.get? p = some pool)
    (hm : w.poolOf? (.close c) = some p) :
    Booked w p (.close c) pool (w.changedPool (.close c) pool) := by
  obtain ⟨conn, hc, -, rfl⟩ := owner_of_poolOf? hm
  have hback : w.givesBack conn.owner (.close c) = pool.held := by
    simp [givesBack, poolOf?_close.1 hm, poolLives_eq hp]
  have hkeeps : w.keeps conn.owner (.close c) = false := rfl
  have htakes : w.takes conn.owner (.close c) = false := rfl
  simp only [changedPool, hc]
  constructor
  · split
    · exact (Pool.receive_fields pool _).1
    · rfl
  · rw [hback]
    split
    · exact ⟨_, Pool.releases_receive pool _⟩
    · rfl
  · intro hrecycles
    rw [hkeeps, htakes, hback]
    split
    · rename_i hheld
      rw [Pool.stock_receive hrecycles, hheld, Bool.toNat_false, Bool.toNat_true]
      omega
    · rename_i hgone
      simp [hgone]

/-- Every move that is addressed to a pool keeps its books. -/
theorem booked_changedPool {w : Session} {p : Nat} {m : Move} {pool : Pool}
    (hp : w.pools.get? p = some pool) (hm : w.poolOf? m = some p) :
    Booked w p m pool (w.changedPool m pool) := by
  cases m with
  | keepIdle q c =>
    obtain rfl : q = p := Option.some.inj hm
    have hkeeps : w.keeps q (.keepIdle q c) = true := by simp [keeps, hp]
    refine ⟨rfl, rfl, fun _ => ?_⟩
    simp only [hkeeps, takes, givesBack, changedPool, List.length_append, List.length_singleton,
      Bool.toNat_true, Bool.toNat_false]
    omega
  | takeIdle q =>
    obtain rfl : q = p := Option.some.inj hm
    have htakes : w.takes q (.takeIdle q) = !pool.idle.isEmpty := by simp [takes, hp]
    refine ⟨rfl, rfl, fun _ => ?_⟩
    simp only [htakes, keeps, givesBack, changedPool, List.length_dropLast, Bool.toNat_false]
    -- taking from a pool with nothing idle changes nothing, and does not count
    cases pool.idle with
    | nil => simp
    | cons c rest =>
      simp only [List.length_cons, List.isEmpty_cons, Bool.not_false, Bool.toNat_true]
      omega
  | evict q =>
    refine ⟨rfl, rfl, fun _ => ?_⟩
    have hsplit := pool.idle.length_eq_length_filter_add (w.isBroken ·)
    simp only [keeps, takes, givesBack, changedPool, List.length_append, Bool.toNat_false]
    omega
  | dropPool q => exact ⟨rfl, rfl, fun _ => by simp [keeps, takes, givesBack, changedPool]⟩
  | close c => exact booked_close hp hm
  | _ => cases hm

theorem booked_move [Scheduler] {w : Session} {p : Nat} {pool : Pool}
    (hp : w.pools.get? p = some pool)
    (m : Move) : ∃ pool', (w.move m).pools.get? p = some pool' ∧ Booked w p m pool pool' := by
  have hold : p ≠ w.pools.next := Roster.ne_next_of_get? hp
  rw [get?_pools_move, if_neg hold, hp]
  split
  · rename_i hm
    exact ⟨_, rfl, booked_changedPool hp hm⟩
  · rename_i hm
    exact ⟨pool, rfl, booked_of_unaddressed hm pool⟩

/-! ## Whole runs -/

/-- The books of the pool `p` in `w`, after the moves of a history. Nothing happens to a pool before
it is made. -/
structure Books (w : Session) (p : Nat) (history : List (Session × Move)) : Prop where
  missing : w.pools.get? p = none →
    occurrences (keeps · p ·) history = 0 ∧ occurrences (takes · p ·) history = 0 ∧
      occurrences (givesBack · p ·) history = 0
  received : ∀ pool, w.pools.get? p = some pool →
    pool.releases.length = occurrences (givesBack · p ·) history
  balance : ∀ pool, w.pools.get? p = some pool → pool.recycles = true →
    occurrences (keeps · p ·) history + occurrences (givesBack · p ·) history =
      pool.idle.length + pool.discarded.length + occurrences (takes · p ·) history

section

variable [Scheduler]

/-- A pool that is not there is not added to, and a new one is empty. -/
theorem Books.move_of_missing {w : Session} {p : Nat} {history : List (Session × Move)}
    (h : Books w p history) (hp : w.pools.get? p = none) (m : Move) :
    Books (w.move m) p (history ++ [(w, m)]) := by
  obtain ⟨hkept, htaken, hreceived⟩ := h.missing hp
  obtain ⟨hkeeps, htakes, hback⟩ := nothing_of_missing hp m
  constructor <;> simp only [occurrences_append, occurrences_singleton, hkept, htaken, hreceived,
    hkeeps, htakes, hback, Bool.toNat_false, Nat.add_zero]
  · simp
  · intro pool hnew
    rw [addedPool?_releases (addedPool?_of_new hp hnew), List.length_nil]
  · intro pool hnew _
    obtain ⟨hidle, hdiscarded⟩ := addedPool?_stock (addedPool?_of_new hp hnew)
    rw [hidle, hdiscarded, List.length_nil]

theorem Books.move_of_found {w : Session} {p : Nat} {history : List (Session × Move)}
    (h : Books w p history) {pool : Pool} (hp : w.pools.get? p = some pool) (m : Move) :
    Books (w.move m) p (history ++ [(w, m)]) := by
  obtain ⟨pool', hp', hbooked⟩ := booked_move hp m
  constructor <;> simp only [occurrences_append, occurrences_singleton, hp']
  · intro hgone
    cases hgone
  · rintro _ ⟨rfl⟩
    rw [hbooked.count, h.received pool hp]
  · rintro _ ⟨rfl⟩ hrecycles
    have hrecycled : pool.recycles = true := hbooked.recycles.symm.trans hrecycles
    have hbefore := h.balance pool hp hrecycled
    have hmove := hbooked.balance hrecycled
    omega

theorem Books.move {w : Session} {p : Nat} {history : List (Session × Move)}
    (h : Books w p history) (m : Move) : Books (w.move m) p (history ++ [(w, m)]) := by
  cases hp : w.pools.get? p with
  | none => exact h.move_of_missing hp m
  | some pool => exact h.move_of_found hp m

theorem Books.moveAll {w : Session} {p : Nat} {history : List (Session × Move)}
    (h : Books w p history) (ms : List Move) :
    Books (w.moveAll ms) p (history ++ w.trail ms) := by
  induction ms generalizing w history with
  | nil => rwa [trail, List.append_nil]
  | cons m ms ih =>
    have hms := ih (h.move m)
    rw [List.append_assoc] at hms
    exact hms

theorem books_run (ops : List Op) (p : Nat) : Books (run {} ops) p (history {} ops) := by
  have hstart : Books {} p [] := by
    constructor <;> simp [occurrences]
  have hend := hstart.moveAll ((history {} ops).map (·.2))
  rw [← run_eq_moveAll, ← history_eq_trail] at hend
  exact hend

/-! ## Moves and operations -/

theorem addsIdle_of_ne {w : Session} {p : Nat} {op : Op}
    (hop : ∀ share, op ≠ .pool p (.addIdle share)) : w.addsIdle p op = false := by
  unfold addsIdle
  split
  · rename_i q share _ _
    have hq : q ≠ p := fun e => hop share (by rw [e])
    simp [hq]
  · rfl

/-- A connection is put into a pool by hand once for each `addIdle`. -/
theorem keeps_moves (w : Session) (p : Nat) (op : Op) :
    occurrences (keeps · p ·) (w.trail (w.moves op)) = (w.addsIdle p op).toNat := by
  by_cases hop : ∃ share, op = .pool p (.addIdle share)
  · obtain ⟨share, rfl⟩ := hop
    rcases addIdle_cases w p share with
      ⟨hmoves, what, hreply⟩ | ⟨pool, journal, hheld, hmoves, hreply⟩
    · simp [hmoves, addsIdle, hreply, trail, occurrences]
    · have hp : w.pools.get? p = some pool := Option.eq_some_of_filter_eq_some hheld
      simp [hmoves, addsIdle, hreply, trail, occurrences, keeps, move, hp, Reply.ok]
  · rw [addsIdle_of_ne fun share h => hop ⟨share, h⟩]
    refine occurrences_eq_zero ?_
    intro u m hm
    have hbelongs := moves_belong w op m (mem_of_mem_trail hm)
    cases m with
    | keepIdle q c =>
      have hq : q ≠ p := by
        rintro rfl
        exact hop hbelongs
      simp [keeps, hq]
    | _ => rfl

/-- The moves of a borrow that finds an idle connection begin with taking it, and take no other. -/
theorem borrowMoves_of_idle {w : Session} {p c : Nat} {pool : Pool}
    (hp : w.pools.get? p = some pool) (hlast : pool.idle.getLast? = some c) :
    ∃ rest, w.borrowMoves p = .takeIdle p :: rest ∧ ∀ q, .takeIdle q ∉ rest := by
  unfold borrowMoves
  rw [hp]
  dsimp only
  rw [hlast]
  dsimp only
  repeat' split
  all_goals exact ⟨_, rfl, by simp⟩

theorem takes_borrow (w : Session) (p : Nat) :
    occurrences (takes · p ·) (w.trail (w.moves (.pool p .borrow))) =
      (w.borrowsIdle p (.pool p .borrow)).toNat := by
  simp only [borrowsIdle, moves, beq_self_eq_true, Bool.true_and]
  cases hheld : w.heldPool? p with
  | none => rfl
  | some pool =>
    have hp : w.pools.get? p = some pool := Option.eq_some_of_filter_eq_some hheld
    simp only [poolMoves, Option.any_some]
    cases hlast : pool.idle.getLast? with
    | none =>
      have hmoves : w.borrowMoves p = [] := by
        unfold borrowMoves
        simp only [hp, hlast]
      rw [hmoves, List.getLast?_eq_none_iff.1 hlast]
      rfl
    | some c =>
      have hidle : pool.idle.isEmpty = false := by
        cases hempty : pool.idle with
        | nil => simp [hempty] at hlast
        | cons d rest => rfl
      obtain ⟨rest, hmoves, hrest⟩ := borrowMoves_of_idle hp hlast
      have hnone : occurrences (takes · p ·) ((w.move (.takeIdle p)).trail rest) = 0 := by
        refine occurrences_eq_zero ?_
        intro u m hm
        have hmem : m ∈ rest := mem_of_mem_trail hm
        cases m with
        | takeIdle q => exact absurd hmem (hrest q)
        | _ => rfl
      rw [hmoves, trail, occurrences_cons, hnone]
      simp [takes, hp, hidle]

/-- A connection is taken out of a pool once for each borrow that finds one. -/
theorem takes_moves (w : Session) (p : Nat) (op : Op) :
    occurrences (takes · p ·) (w.trail (w.moves op)) = (w.borrowsIdle p op).toNat := by
  by_cases hop : op = .pool p .borrow
  · rw [hop]
    exact takes_borrow w p
  · have hnone : w.borrowsIdle p op = false := by
      unfold borrowsIdle
      split
      · rename_i q
        have hq : q ≠ p := fun e => hop (by rw [e])
        simp [hq]
      · rfl
    rw [hnone]
    refine occurrences_eq_zero ?_
    intro u m hm
    have hbelongs := moves_belong w op m (mem_of_mem_trail hm)
    cases m with
    | takeIdle q =>
      have hq : q ≠ p := by
        rintro rfl
        exact hop hbelongs
      simp [takes, hq]
    | _ => rfl

/-- What the moves of each operation come to, the moves of a run come to. -/
theorem occurrences_history {happens : Session → Move → Bool} {called : Session → Op → Bool}
    (hop : ∀ w op, occurrences happens (w.trail (w.moves op)) = (called w op).toNat)
    (w : Session) (ops : List Op) :
    occurrences happens (w.history ops) = occurrences called (w.calls ops) := by
  induction ops generalizing w with
  | nil => rfl
  | cons op ops ih => rw [history, calls, occurrences_append, occurrences_cons, hop, ih]

/-! ## The list of releases -/

/-- Releases are only ever added to those that a pool has noted down, and a pool recycles as long as
it exists or never. -/
theorem releases_kept {ops more : List Op} {p : Nat} {pool : Pool}
    (hp : (run {} ops).pools.get? p = some pool) :
    ∃ pool', (run {} (ops ++ more)).pools.get? p = some pool' ∧
      pool.releases <+: pool'.releases ∧ pool'.recycles = pool.recycles := by
  rw [run_append]
  refine (run_induction (P := fun u => ∃ pool', u.pools.get? p = some pool' ∧
    pool.releases <+: pool'.releases ∧ pool'.recycles = pool.recycles) ?_
    ⟨pool, hp, List.prefix_rfl, rfl⟩).1
  rintro ⟨u, m⟩ - ⟨pool', hp', hprefix, hrecycles⟩
  obtain ⟨next, hnext, hbooked⟩ := booked_move hp' m
  exact ⟨next, hnext, hprefix.trans hbooked.prefix, hbooked.recycles.trans hrecycles⟩

/-! ## Eviction -/

/-- The pool that eviction leaves of `pool`. -/
def evicted (w : Session) (pool : Pool) : Pool :=
  { pool with
    idle := pool.idle.filter (!w.isBroken ·)
    discarded := pool.discarded ++ pool.idle.filter (w.isBroken ·) }

omit [Scheduler] in
theorem onPool_congr {w : Session} {p : Nat} {pool : Pool} {f g : Pool → Pool}
    (hp : w.pools.get? p = some pool) (h : f pool = g pool) : w.onPool p f = w.onPool p g := by
  unfold onPool
  rw [Roster.modify_congr_of_some hp h]

theorem step_evict {w : Session} {p : Nat} {pool : Pool} (hheld : w.heldPool? p = some pool) :
    w.step (.pool p .evict) =
      (w.onPool p fun _ => w.evicted pool, .ok (.number (pool.idle.countP (w.isBroken ·)))) := by
  have hp : w.pools.get? p = some pool := Option.eq_some_of_filter_eq_some hheld
  simp only [step, hheld, performPool, evict, hp, List.countP_eq_length_filter]
  exact congrArg (·, _) (onPool_congr hp rfl)

/-- An eviction from a pool with nothing broken among the idle ones does nothing. -/
theorem step_evict_of_sound {w : Session} {p : Nat} {pool : Pool}
    (hheld : w.heldPool? p = some pool) (hsound : ∀ c ∈ pool.idle, w.isBroken c = false) :
    w.step (.pool p .evict) = (w, .ok (.number 0)) := by
  have hp : w.pools.get? p = some pool := Option.eq_some_of_filter_eq_some hheld
  have hkept : pool.idle.filter (!w.isBroken ·) = pool.idle :=
    List.filter_eq_self.2 fun c hc => by simp [hsound c hc]
  have hgone : pool.idle.filter (w.isBroken ·) = [] :=
    List.filter_eq_nil_iff.2 fun c hc => by simp [hsound c hc]
  have hpool : w.evicted pool = pool := by
    unfold evicted
    rw [hkept, hgone, List.append_nil]
  rw [step_evict hheld, hpool, List.countP_eq_length_filter, hgone]
  have hsame : (w.onPool p fun _ => pool) = w := by
    unfold onPool
    rw [Roster.modify_of_some hp rfl]
  rw [hsame]
  rfl

/-- An eviction right after another one does nothing. -/
theorem evict_again {w : Session} {p : Nat} {pool : Pool} (hheld : w.heldPool? p = some pool) :
    (w.step (.pool p .evict)).1.step (.pool p .evict) =
      ((w.step (.pool p .evict)).1, .ok (.number 0)) := by
  obtain ⟨hp, hh⟩ := Option.filter_eq_some_iff.1 hheld
  rw [step_evict hheld]
  dsimp only
  have hheld' : (w.onPool p fun _ => w.evicted pool).heldPool? p = some (w.evicted pool) := by
    refine Option.filter_eq_some_iff.2 ⟨?_, hh⟩
    simp [onPool, hp]
  refine step_evict_of_sound hheld' ?_
  intro c hc
  show w.isBroken c = false
  simpa using (List.mem_filter.1 hc).2

/-! ## All of it -/

/-- The books of the pool `p` in the run `ops`. -/
structure PoolBooks (ops : List Op) (p : Nat) : Prop where
  balance : ∀ pool, (run {} ops).pools.get? p = some pool → pool.recycles = true →
    occurrences (addsIdle · p ·) (calls {} ops) + pool.releases.length =
      pool.idle.length + pool.discarded.length +
        occurrences (borrowsIdle · p ·) (calls {} ops)
  /-- The releases are as many as the closes that found a connection open and the pool its owner. -/
  received : ∀ pool, (run {} ops).pools.get? p = some pool →
    pool.releases.length = occurrences (givesBack · p ·) (history {} ops)
  givenBack : ∀ w c pool, (w, .close c) ∈ history {} ops → w.isOutOf c p = true →
    w.pools.get? p = some pool → pool.held = true →
    ∃ pool', (w.move (.close c)).pools.get? p = some pool' ∧
      GivenBack (w.move (.close c)) c pool pool'
  others : ∀ w m pool, (w, m) ∈ history {} ops → w.givesBack p m = false →
    w.pools.get? p = some pool →
    ∃ pool', (w.move m).pools.get? p = some pool' ∧ pool'.releases = pool.releases
  /-- Whatever is done afterwards. -/
  kept : ∀ pool more, (run {} ops).pools.get? p = some pool →
    ∃ pool', (run {} (ops ++ more)).pools.get? p = some pool' ∧
      pool.releases <+: pool'.releases ∧ pool'.recycles = pool.recycles
  evict : ∀ pool, (run {} ops).heldPool? p = some pool →
    (run {} ops).step (.pool p .evict) =
      ((run {} ops).onPool p fun _ => (run {} ops).evicted pool,
        .ok (.number (pool.idle.countP ((run {} ops).isBroken ·))))
  again : ∀ pool, (run {} ops).heldPool? p = some pool →
    (run {} (ops ++ [.pool p .evict])).step (.pool p .evict) =
      (run {} (ops ++ [.pool p .evict]), .ok (.number 0))

/-- In every run, the books of every pool balance. -/
theorem pool_books (ops : List Op) (p : Nat) : PoolBooks ops p where
  balance := by
    intro pool hp hrecycles
    have hbooks := books_run ops p
    rw [hbooks.received pool hp, ← occurrences_history (keeps_moves · p ·),
      ← occurrences_history (takes_moves · p ·)]
    exact hbooks.balance pool hp hrecycles
  received := (books_run ops p).received
  givenBack := by
    intro w c pool _ hout hp hheld
    obtain ⟨conn, hc, ho, rfl⟩ := owner_of_poolOf? (poolOf?_close.2 hout)
    exact givenBack_close hc ho hp hheld
  others := by
    intro w m pool _ hback hp
    obtain ⟨pool', hp', hbooked⟩ := booked_move hp m
    have hreleases := hbooked.releases
    rw [hback, if_neg Bool.false_ne_true] at hreleases
    exact ⟨pool', hp', hreleases⟩
  kept := fun _ _ hp => releases_kept hp
  evict := fun _ hheld => step_evict hheld
  again := by
    intro pool hheld
    rw [run_snoc]
    exact evict_again hheld

end

section

attribute [local instance] Scheduler.exact

/-- One connection is taken and comes back, the other breaks while it is idle. -/
example :
    let ops : List Op :=
      [.newPool .recycling, .pool 0 (.addIdle none), .pool 0 (.addIdle none), .pool 0 .borrow,
        .connection 2 .close, .pool 0 (.idle 1 .markBroken), .pool 0 .evict]
    ((run {} ops).pools.get? 0).map (fun pool =>
        (pool.idle, pool.discarded, pool.releases.length)) = some ([2], [1], 1) ∧
      occurrences (addsIdle · 0 ·) (calls {} ops) = 2 ∧
      occurrences (borrowsIdle · 0 ·) (calls {} ops) = 1 := by
  decide

end

end Session

end ConnLease
