import Mathlib.Data.List.Induction
import ConnLease.Proofs.Roster
import ConnLease.Proofs.Session.Occasions
import ConnLease.Proofs.Session.Quiescence

/-!
# A connection is in one place

As long as connections are revived by borrows only, each connection stands at most once in the idle
and discarded lists of all pools together. An idle connection is closed, or `addIdle` has put it
there and nobody has had it yet; so no borrow lends a connection that somebody has open, and what
has been discarded is neither idle nor lent again.
-/

namespace ConnLease

/-- How often a connection stands in the lists of a pool. -/
def Pool.tally (pool : Pool) (c : Nat) : Nat := pool.idle.count c + pool.discarded.count c

namespace Session

/-- How often a connection stands in the lists of all pools together. -/
def places (w : Session) (c : Nat) : Nat := (w.pools.toList.map (·.tally c)).sum

/-! ## Arrivals -/

/-- Whether a move can put the connection `c` into a list of a pool. -/
def arrives (w : Session) (m : Move) (c : Nat) : Bool :=
  match m with
  | .keepIdle _ d => d == c
  | .close d => d == c && !w.isClosed d
  | _ => false

theorem count_only (d c : Nat) : [d].count c = (d == c).toNat := by
  rw [List.count_singleton]
  cases d == c <;> rfl

theorem tally_receive_le (pool : Pool) (m : Metadata) (c : Nat) :
    (pool.receive m).tally c ≤ pool.tally c + (m.connection == c).toNat := by
  unfold Pool.tally
  rw [Pool.idle_receive, Pool.discarded_receive]
  have hone := count_only m.connection c
  cases pool.recycles <;> cases m.isReusable <;>
    simp only [Bool.and_false, Bool.and_true, Bool.not_true, Bool.not_false, if_true,
      Bool.false_eq_true, if_false, List.count_append] <;> omega

theorem tally_changedPool_le {w : Session} {m : Move} {p : Nat} (hm : w.poolOf? m = some p)
    (pool : Pool) (c : Nat) :
    (w.changedPool m pool).tally c ≤ pool.tally c + (w.arrives m c).toNat := by
  cases m with
  | keepIdle q d =>
    have hone := count_only d c
    simp only [Pool.tally, changedPool, arrives, List.count_append]
    omega
  | takeIdle q =>
    have hfewer : pool.idle.dropLast.count c ≤ pool.idle.count c :=
      (List.dropLast_sublist _).count_le c
    simp only [Pool.tally, changedPool]
    omega
  | evict q =>
    have hsplit := (List.filter_append_perm (w.isBroken ·) pool.idle).count_eq c
    simp only [Pool.tally, changedPool, List.count_append] at hsplit ⊢
    omega
  | close d =>
    obtain ⟨conn, hd, ho, -⟩ := owner_of_poolOf? hm
    have hopen : w.isClosed d = false := by rw [isClosed_eq hd, ho]
    simp only [changedPool, hd, arrives, hopen, Bool.not_false, Bool.and_true]
    split
    · exact tally_receive_le pool _ c
    · omega
  | _ => exact Nat.le_add_right _ _

theorem tally_added {m : Move} {pool : Pool} (h : m.addedPool? = some pool) (c : Nat) :
    pool.tally c = 0 := by
  cases m with
  | addPool config timer recycles => cases h; rfl
  | _ => cases h

/-- A move puts a connection into the lists at most once, and only if it arrives. -/
theorem places_move_le [Scheduler] (w : Session) (m : Move) (c : Nat) :
    (w.move m).places c ≤ w.places c + (w.arrives m c).toNat := by
  unfold places
  cases hm : w.poolOf? m with
  | some p =>
    rw [pools_move hm]
    cases hp : w.pools.get? p with
    | none =>
      rw [Roster.modify_of_none hp]
      exact Nat.le_add_right _ _
    | some pool =>
      have hsum := Roster.sum_modify (Pool.tally · c) (w.changedPool m) hp
      have hone := tally_changedPool_le hm pool c
      omega
  | none =>
    cases hn : m.addedPool? with
    | some pool =>
      have hnothing := tally_added hn c
      rw [pools_move_of_added hn, Roster.sum_push]
      omega
    | none =>
      rw [pools_move_of_unaddressed hm hn]
      exact Nat.le_add_right _ _

/-! ## Standing somewhere -/

/-- The session without what stands in the lists of the pool `p`. -/
def emptied (w : Session) (p : Nat) : Session :=
  w.onPool p fun pool => { pool with idle := [], discarded := [] }

theorem places_emptied {w : Session} {p : Nat} {pool : Pool} (hp : w.pools.get? p = some pool)
    (c : Nat) : (w.emptied p).places c + pool.tally c = w.places c :=
  Roster.sum_modify (Pool.tally · c) (fun pool => { pool with idle := [], discarded := [] }) hp

theorem tally_le_places {w : Session} {p : Nat} {pool : Pool} (hp : w.pools.get? p = some pool)
    (c : Nat) : pool.tally c ≤ w.places c := by
  have hsum := places_emptied hp c
  omega

/-- Two pools have their share of the places each. -/
theorem tally_add_le_places {w : Session} {p q : Nat} {pool other : Pool} (hpq : q ≠ p)
    (hp : w.pools.get? p = some pool) (hq : w.pools.get? q = some other) (c : Nat) :
    pool.tally c + other.tally c ≤ w.places c := by
  have hq' : (w.emptied p).pools.get? q = some other := by
    simp only [emptied, onPool_fields, Roster.get?_modify_of_ne _ _ hpq, hq]
  have hother := tally_le_places hq' c
  have hsum := places_emptied hp c
  omega

theorem places_pos_of_idle {w : Session} {p c : Nat} (h : w.IdleIn p c) : 0 < w.places c := by
  obtain ⟨pool, hp, hc⟩ := h
  have hle := tally_le_places hp c
  have hcount := List.count_pos_iff.2 hc
  unfold Pool.tally at hle
  omega

/-- What a borrow takes out of its pool is gone from the lists. -/
theorem places_borrow [Scheduler] {w : Session} {p c : Nat} {pool : Pool}
    (hp : w.pools.get? p = some pool) (hlast : pool.idle.getLast? = some c) (d : Nat) :
    (w.borrow p).1.places d + (c == d).toNat = w.places d := by
  have hsum := Roster.sum_modify (Pool.tally · d)
    (fun pool => { pool with idle := pool.idle.dropLast }) hp
  obtain ⟨others, hidle⟩ := List.getLast?_eq_some_iff.1 hlast
  have hone := count_only c d
  have htally : pool.tally d =
      Pool.tally { pool with idle := pool.idle.dropLast } d + (c == d).toNat := by
    simp only [Pool.tally, hidle, List.dropLast_concat, List.count_append]
    omega
  unfold places
  rw [(borrow_fields hp hlast).1]
  omega

/-! ## Order -/

/-- Each connection stands in one place at most, and one that stands somewhere is closed or held by
nobody. -/
structure Orderly (w : Session) : Prop where
  once : ∀ c, w.places c ≤ 1
  apart : ∀ c, 0 < w.places c → ∃ conn, w.connections.get? c = some conn ∧
    (conn.closed = true ∨ conn.held = false)

/-- A caller holds the connection `c`. -/
def Holds (w : Session) (c : Nat) : Prop :=
  ∃ conn, w.connections.get? c = some conn ∧ conn.held = true

theorem changed_held [Scheduler] (w : Session) (m : Move) (conn : Connection) :
    (w.changed m conn).held =
      match m with
      | .lend _ => true
      | .dropConnection _ => false
      | _ => conn.held := by
  cases m with
  | close c => simp only [changed]; split <;> rfl
  | arm c threshold timer | register c s | unregister c s | untrack c s | adopt c call driver =>
    exact changed_of_keepsBooks (P := (·.held = conn.held)) (by rfl) fun _ _ => rfl
  | _ => rfl

theorem holds_move [Scheduler] {w : Session} {c : Nat} (h : w.Holds c) {m : Move}
    (hm : m ≠ .dropConnection c) : (w.move m).Holds c := by
  obtain ⟨conn, hc, hheld⟩ := h
  refine connection_move hc m hheld ?_
  intro haddressed
  rw [changed_held]
  split
  · rfl
  · cases haddressed
    exact absurd rfl hm
  · exact hheld

/-- A connection that stands apart stays so unless it is revived or lent. -/
theorem apart_move [Scheduler] {w : Session} {c : Nat} {conn : Connection} {m : Move}
    (hc : w.connections.get? c = some conn) (hapart : conn.closed = true ∨ conn.held = false)
    (hrevive : ∀ d, m ≠ .revive d) (hlend : ∀ d, m ≠ .lend d) :
    ∃ conn', (w.move m).connections.get? c = some conn' ∧
      (conn'.closed = true ∨ conn'.held = false) := by
  refine connection_move hc m hapart ?_
  intro _
  rw [changed_closed, changed_held]
  cases m with
  | revive d => exact absurd rfl (hrevive d)
  | lend d => exact absurd rfl (hlend d)
  | close d => exact .inl rfl
  | dropConnection d => exact .inr rfl
  | _ => exact hapart

theorem orderly_move [Scheduler] {w : Session} (hw : w.Orderly) {m : Move}
    (hrevive : ∀ d, m ≠ .revive d)
    (hlend : ∀ d, m ≠ .lend d)
    (harrives : ∀ c, w.arrives m c = true → w.places c = 0 ∧
      ∃ conn, (w.move m).connections.get? c = some conn ∧
        (conn.closed = true ∨ conn.held = false)) : (w.move m).Orderly := by
  constructor
  · intro c
    have hle := places_move_le w m c
    cases ha : w.arrives m c with
    | true =>
      rw [ha, (harrives c ha).1] at hle
      exact hle
    | false =>
      rw [ha] at hle
      exact Nat.le_trans hle (hw.once c)
  · intro c hpos
    cases ha : w.arrives m c with
    | true => exact (harrives c ha).2
    | false =>
      have hle := places_move_le w m c
      rw [ha] at hle
      obtain ⟨conn, hc, hapart⟩ := hw.apart c (Nat.lt_of_lt_of_le hpos hle)
      exact apart_move hc hapart hrevive hlend

/-- The holder of an open connection has the only claim to it. -/
theorem places_of_open {w : Session} (hw : w.Orderly) {c : Nat} (hheld : w.Holds c)
    (hopen : w.isClosed c = false) : w.places c = 0 := by
  obtain ⟨conn, hc, hheld⟩ := hheld
  rw [isClosed_eq hc] at hopen
  rcases Nat.eq_zero_or_pos (w.places c) with h | h
  · exact h
  · obtain ⟨conn', hc', hapart⟩ := hw.apart c h
    obtain rfl : conn = conn' := Option.some.inj (hc.symm.trans hc')
    rw [hopen, hheld] at hapart
    rcases hapart with h | h <;> cases h

theorem orderly_borrow [Scheduler] {w : Session} (hw : w.Orderly) {p c : Nat} {pool : Pool}
    (hp : w.pools.get? p = some pool) (hlast : pool.idle.getLast? = some c) :
    (w.borrow p).1.Orderly := by
  have hplaces := places_borrow hp hlast
  constructor
  · intro d
    have hd := hplaces d
    have hone := hw.once d
    omega
  · intro d hpos
    have hd := hplaces d
    have hne : d ≠ c := by
      rintro rfl
      have hone := hw.once d
      rw [beq_self_eq_true, Bool.toNat_true] at hd
      omega
    rw [(borrow_fields hp hlast).2 d hne]
    exact hw.apart d (by omega)

/-- A connection that `addIdle` makes has been nowhere before. -/
theorem orderly_addIdle [Scheduler] {w : Session} (hw : w.Orderly) (p : Nat) (config : LeaseConfig)
    (journal : Option Nat) : (w.moveAll
      [.create p config journal false, .keepIdle p w.connections.next]).Orderly := by
  have hcreated : (w.move (.create p config journal false)).Orderly :=
    orderly_move hw (by simp) (by simp) (fun c ha => by cases ha)
  refine orderly_move (m := .keepIdle p w.connections.next) hcreated (by simp) (by simp) ?_
  intro c ha
  obtain rfl : w.connections.next = c := by simpa [arrives] using ha
  constructor
  · have hle := places_move_le w (.create p config journal false) w.connections.next
    rcases Nat.eq_zero_or_pos (w.places w.connections.next) with hnone | hpos
    · rw [hnone] at hle
      exact Nat.eq_zero_of_le_zero hle
    · obtain ⟨conn, hc, -⟩ := hw.apart _ hpos
      exact absurd rfl (Roster.ne_next_of_get? hc)
  · have hfresh : (w.move (.create p config journal false)).connections.get?
        w.connections.next = w.created? (.create p config journal false) := by
      rw [get?_connections_move, if_neg (by simp [Move.connection?]), if_pos rfl]
    exact ⟨_, hfresh, .inr rfl⟩

/-- An operation that takes nothing from the idle connections and adds nothing to them by hand. -/
structure Op.GivesBack (op : Op) : Prop where
  revival : op.isRevival = false
  borrow : ∀ p, op ≠ .pool p .borrow
  addIdle : ∀ p share, op ≠ .pool p (.addIdle share)

/-- Order, and if a connection is addressed then its caller holds it. -/
structure OrderlyFor (w : Session) (op : Op) : Prop where
  orderly : w.Orderly
  holder : ∀ c o, op = .connection c o → w.Holds c

/-- Where the holder of an open connection closes it, that is given back and nothing else is. -/
theorem orderlyFor_move [Scheduler] {w : Session} {op : Op} {m : Move} (hw : w.OrderlyFor op)
    (hop : op.GivesBack) (hm : m.BelongsTo op) : (w.move m).OrderlyFor op := by
  constructor
  · refine orderly_move hw.orderly ?_ ?_ ?_
    · rintro d rfl
      rcases hm with hr | ⟨p, h⟩
      · rw [hop.revival] at hr
        cases hr
      · exact hop.borrow p h
    · rintro d rfl
      obtain ⟨p, h⟩ := hm
      exact hop.borrow p h
    · intro c ha
      cases m with
      | keepIdle p d =>
        obtain ⟨share, h⟩ := hm
        exact absurd h (hop.addIdle p share)
      | close d =>
        obtain ⟨o, h⟩ := hm
        obtain ⟨rfl, hopen⟩ : d = c ∧ w.isClosed d = false := by simpa [arrives] using ha
        have hheld := hw.holder d o h
        refine ⟨places_of_open hw.orderly hheld hopen, ?_⟩
        obtain ⟨conn, hd, -⟩ := hheld
        rw [isClosed_eq hd] at hopen
        exact ⟨_, closed_of_close hd hopen, .inl rfl⟩
      | _ => cases ha
  · rintro c o rfl
    refine holds_move (hw.holder c o rfl) ?_
    rintro rfl
    cases hm

/-- The other operations only give connections back. -/
theorem orderly_moves [Scheduler] {w : Session} {op : Op} (hw : w.OrderlyFor op)
    (hop : op.GivesBack) : (w.moveAll (w.moves op)).Orderly :=
  (moveAll_induction (P := (·.OrderlyFor op)) (fun x hx h =>
    orderlyFor_move h hop (moves_belong w op x.2 (mem_of_mem_trail hx))) hw).1.orderly

theorem orderly_step [Scheduler] {w : Session} (hw : w.Orderly) {op : Op}
    (hrevival : op.isRevival = false) : (w.step op).1.Orderly := by
  by_cases hborrow : ∃ p, op = .pool p .borrow
  · obtain ⟨p, rfl⟩ := hborrow
    rcases step_borrow_cases w p with ⟨hsame, -⟩ | ⟨pool, c, hp, hlast, hstep⟩
    · rw [hsame]
      exact hw
    · rw [hstep]
      exact orderly_borrow hw hp hlast
  · by_cases hadd : ∃ p share, op = .pool p (.addIdle share)
    · obtain ⟨p, share, rfl⟩ := hadd
      rw [step_eq_moves]
      rcases addIdle_cases w p share with ⟨hmoves, -⟩ | ⟨pool, journal, -, hmoves, -⟩
      · rw [hmoves]
        exact hw
      · rw [hmoves]
        exact orderly_addIdle hw p pool.config journal
    · rw [step_eq_moves]
      by_cases hmoves : w.moves op = []
      · rw [hmoves]
        exact hw
      · refine orderly_moves ⟨hw, ?_⟩
          ⟨hrevival, fun p h => hborrow ⟨p, h⟩, fun p share h => hadd ⟨p, share, h⟩⟩
        rintro c o rfl
        obtain ⟨m, hm⟩ := List.exists_mem_of_ne_nil _ hmoves
        obtain ⟨conn, hheld⟩ := heldConnection?_of_mem hm
        exact ⟨conn, Option.filter_eq_some_iff.1 hheld⟩

/-! ## Idle and open -/

section

variable [Scheduler]

/-- The operation gives the connection `c` to its caller. -/
def HandsOut (w : Session) (op : Op) (c : Nat) : Prop :=
  (∃ p loan, op = .pool p .borrow ∧ w.Lends p loan ∧ loan.connection = c) ∨
    ∃ p share, (op = .pool p (.connect share) ∨ op = .pool p (.connectPlain share)) ∧
      (w.step op).2 = .ok (.connected c true)

/-- A caller that connects gets a new connection. -/
theorem moves_of_connected {w : Session} {op : Op} {p c : Nat} {share : Option Nat}
    (hop : op = .pool p (.connect share) ∨ op = .pool p (.connectPlain share))
    (h : (w.step op).2 = .ok (.connected c true)) :
    c = w.connections.next ∧ ∃ config journal, w.moves op = [.create p config journal true] := by
  rcases hop with rfl | rfl
  · rcases connect_cases w p share with ⟨-, what, hreply⟩ | ⟨pool, journal, -, hmoves, hreply⟩
    · rw [hreply] at h
      cases h
    · rw [hreply] at h
      cases h
      exact ⟨rfl, pool.config, journal, hmoves⟩
  · rcases connectPlain_cases w p share with ⟨-, what, hreply⟩ | ⟨journal, hmoves, hreply⟩
    · rw [hreply] at h
      cases h
    · rw [hreply] at h
      cases h
      exact ⟨rfl, {}, journal, hmoves⟩

theorem idleOpen_move {w : Session} {m : Move} {p c : Nat} (hkeep : m ≠ .keepIdle p c)
    (hrevive : m ≠ .revive c) (hidle : (w.move m).IdleIn p c)
    (hopen : (w.move m).isReturned c = false) : w.IdleIn p c ∧ w.isReturned c = false := by
  constructor
  · rcases idleIn_move_cases hidle with h | h | ⟨rfl, conn, hc, hclosed, -⟩
    · exact h
    · exact absurd h hkeep
    · rw [isReturned_eq hc, hclosed] at hopen
      cases hopen
  · rw [isReturned_move, if_neg hrevive] at hopen
    split at hopen
    · have hnone : w.connections.get? c = none := by simpa using hopen
      simp [isReturned, hnone]
    · exact hopen

theorem idleOpen_moveAll {w : Session} {ms : List Move} {p c : Nat}
    (hms : ∀ m ∈ ms, m ≠ .keepIdle p c ∧ m ≠ .revive c) (hidle : (w.moveAll ms).IdleIn p c)
    (hopen : (w.moveAll ms).isReturned c = false) : w.IdleIn p c ∧ w.isReturned c = false := by
  induction ms generalizing w with
  | nil => exact ⟨hidle, hopen⟩
  | cons m ms ih =>
    obtain ⟨hkeep, hrevive⟩ := hms m (List.mem_cons_self ..)
    obtain ⟨hidle, hopen⟩ := ih (fun n hn => hms n (List.mem_cons_of_mem _ hn)) hidle hopen
    exact idleOpen_move hkeep hrevive hidle hopen

/-- Nobody gets an idle connection by connecting. -/
theorem not_connected_of_idle {w : Session} (hw : w.Orderly) {p c : Nat} (h : w.IdleIn p c)
    (op : Op) : ¬ ∃ q share, (op = .pool q (.connect share) ∨ op = .pool q (.connectPlain share)) ∧
      (w.step op).2 = .ok (.connected c true) := by
  rintro ⟨q, share, hop, hreply⟩
  obtain ⟨rfl, -⟩ := moves_of_connected hop hreply
  obtain ⟨conn, hc, -⟩ := hw.apart _ (places_pos_of_idle h)
  exact absurd rfl (Roster.ne_next_of_get? hc)

/-- What is idle and not closed after a borrow was so before and is not what was lent. -/
theorem idleOpen_borrow {w : Session} (hw : w.Orderly) {p q c : Nat}
    (hidle : (w.step (.pool q .borrow)).1.IdleIn p c)
    (hopen : (w.step (.pool q .borrow)).1.isReturned c = false) :
    w.IdleIn p c ∧ w.isReturned c = false ∧ ∀ loan, w.Lends q loan → loan.connection ≠ c := by
  rcases step_borrow_cases w q with ⟨hsame, hnever⟩ | ⟨pool, d, hp, hlast, hstep⟩
  · rw [hsame] at hidle hopen
    exact ⟨hidle, hopen, fun loan hlends => absurd hlends (hnever loan)⟩
  · rw [hstep] at hidle hopen
    obtain ⟨hpools, hothers⟩ := borrow_fields hp hlast
    -- the connection that was taken out stood there only once
    have hne : c ≠ d := by
      rintro rfl
      have hplaces := places_borrow hp hlast c
      have hpos := places_pos_of_idle hidle
      have hone := hw.once c
      rw [beq_self_eq_true, Bool.toNat_true] at hplaces
      omega
    refine ⟨?_, ?_, ?_⟩
    · obtain ⟨pool', hp', hc⟩ := hidle
      rw [hpools, Roster.get?_modify] at hp'
      split at hp'
      · obtain ⟨before, hbefore, rfl⟩ := Option.map_eq_some_iff.1 hp'
        exact ⟨before, hbefore, List.dropLast_subset _ hc⟩
      · exact ⟨pool', hp', hc⟩
    · unfold isReturned at hopen ⊢
      rwa [hothers c hne] at hopen
    · rintro loan hlends rfl
      obtain ⟨pool', hlent⟩ := hlends.lent
      obtain rfl : pool = pool' := Option.some.inj (hp.symm.trans hlent.found)
      rw [hlent.last] at hlast
      exact hne (Option.some.inj hlast)

/-- What is idle and not closed after another operation was so before, or it is new. -/
theorem idleOpen_moves {w : Session} {op : Op} (hrevival : op.isRevival = false)
    (hborrow : ∀ q, op ≠ .pool q .borrow) {p c : Nat} (hidle : (w.step op).1.IdleIn p c)
    (hopen : (w.step op).1.isReturned c = false) :
    w.IdleIn p c ∧ w.isReturned c = false ∨
      c = w.connections.next ∧ ∃ share, op = .pool p (.addIdle share) ∧
        (w.step op).2 = .ok (.idled c) := by
  by_cases hadded : .keepIdle p c ∈ w.moves op
  · right
    have hnext := keepIdle_fresh hadded
    obtain ⟨share, rfl⟩ := moves_belong w op _ hadded
    refine ⟨hnext, share, rfl, ?_⟩
    rcases addIdle_cases w p share with ⟨hmoves, -⟩ | ⟨pool, journal, -, -, hreply⟩
    · rw [hmoves] at hadded
      cases hadded
    · rw [hreply, hnext]
  · left
    have hrevive : ∀ m ∈ w.moves op, m ≠ .revive c := by
      rintro m hm rfl
      rcases moves_belong w op _ hm with hr | ⟨q, hop⟩
      · rw [hrevival] at hr
        cases hr
      · exact hborrow q hop
    rw [step_eq_moves] at hidle hopen
    exact idleOpen_moveAll (fun m hm => ⟨fun h => hadded (h ▸ hm), hrevive m hm⟩) hidle hopen

/-- An idle connection that is not closed was so before an operation, which did not give it to
anybody, or `addIdle` has just made it. -/
theorem idleOpen_step {w : Session} (hw : w.Orderly) {op : Op} (hrevival : op.isRevival = false)
    {p c : Nat} (hidle : (w.step op).1.IdleIn p c) (hopen : (w.step op).1.isReturned c = false) :
    (w.IdleIn p c ∧ w.isReturned c = false ∧ ¬ w.HandsOut op c) ∨
      c = w.connections.next ∧ ∃ share, op = .pool p (.addIdle share) ∧
        (w.step op).2 = .ok (.idled c) := by
  by_cases hborrow : ∃ q, op = .pool q .borrow
  · obtain ⟨q, rfl⟩ := hborrow
    obtain ⟨hin, hopen', hnever⟩ := idleOpen_borrow hw hidle hopen
    refine .inl ⟨hin, hopen', ?_⟩
    rintro (⟨q', loan, hop, hlends, hloan⟩ | hconnected)
    · cases hop
      exact hnever loan hlends hloan
    · exact not_connected_of_idle hw hin _ hconnected
  · rcases idleOpen_moves hrevival (fun q h => hborrow ⟨q, h⟩) hidle hopen with
      ⟨hin, hopen'⟩ | hnew
    · refine .inl ⟨hin, hopen', ?_⟩
      rintro (⟨q, loan, hop, -⟩ | hconnected)
      · exact hborrow ⟨q, hop⟩
      · exact not_connected_of_idle hw hin op hconnected
    · exact .inr hnew

end

/-! ## Discarded connections -/

/-- The connection `c` has been discarded by the pool `p`. -/
def DiscardedIn (w : Session) (p c : Nat) : Prop :=
  ∃ pool, w.pools.get? p = some pool ∧ c ∈ pool.discarded

theorem mem_discarded_changedPool {w : Session} {m : Move} {pool : Pool} {c : Nat}
    (h : c ∈ pool.discarded) : c ∈ (w.changedPool m pool).discarded := by
  cases m with
  | evict p => exact List.mem_append_left _ h
  | close d =>
    simp only [changedPool]
    split
    · split
      · rw [Pool.discarded_receive]
        split
        · exact List.mem_append_left _ h
        · exact h
      · exact h
    · exact h
  | _ => exact h

theorem discardedIn_move [Scheduler] {w : Session} {p c : Nat} (h : w.DiscardedIn p c) (m : Move) :
    (w.move m).DiscardedIn p c := by
  obtain ⟨pool, hp, hc⟩ := h
  exact pool_move hp m hc fun _ => mem_discarded_changedPool hc

theorem discardedIn_run [Scheduler] {w : Session} {p c : Nat} (h : w.DiscardedIn p c)
    (ops : List Op) : (w.run ops).DiscardedIn p c :=
  (run_induction (P := (·.DiscardedIn p c)) (fun x _ hx => discardedIn_move hx x.2) h).1

/-- Where there is order, a discarded connection is idle nowhere. -/
theorem not_idleIn_of_discardedIn {w : Session} (hw : w.Orderly) {p c : Nat}
    (h : w.DiscardedIn p c) (q : Nat) : ¬ w.IdleIn q c := by
  obtain ⟨pool, hp, hc⟩ := h
  rintro ⟨other, hq, hc'⟩
  have hone := hw.once c
  have hdiscarded := List.count_pos_iff.2 hc
  have hidle := List.count_pos_iff.2 hc'
  by_cases hpq : q = p
  · subst hpq
    obtain rfl : pool = other := Option.some.inj (hp.symm.trans hq)
    have htally := tally_le_places hp c
    unfold Pool.tally at htally
    omega
  · have htally := tally_add_le_places hpq hp hq c
    unfold Pool.tally at htally
    omega

/-! ## Whole runs -/

section

variable [Scheduler]

/-- No operation of the run `ops` has given the connection `c` to a caller. -/
def NeverHanded (ops : List Op) (c : Nat) : Prop :=
  ∀ before op later, ops = before ++ op :: later → ¬ (run {} before).HandsOut op c

/-- The connection `c` was made by a call of `addIdle` on the pool `p`. -/
def AddedIdle (ops : List Op) (p c : Nat) : Prop :=
  ∃ before share later, ops = before ++ .pool p (.addIdle share) :: later ∧
    ((run {} before).step (.pool p (.addIdle share))).2 = .ok (.idled c)

theorem isSome_connections_run {w : Session} {c : Nat}
    (h : (w.connections.get? c).isSome = true) (ops : List Op) :
    ((w.run ops).connections.get? c).isSome = true :=
  (run_induction (P := fun u => (u.connections.get? c).isSome = true)
    (fun x _ hx => isSome_connections_move hx x.2) h).1

theorem isSome_of_handsOut {w : Session} (hw : w.Reachable) {op : Op} {c : Nat}
    (h : w.HandsOut op c) : ((w.run [op]).connections.get? c).isSome = true := by
  rcases h with ⟨p, loan, rfl, hlends, rfl⟩ | ⟨p, share, hop, hreply⟩
  · obtain ⟨pool, hlent⟩ := hlends.lent
    have hfound := hw.furnished.idle p pool _ hlent.found (List.mem_of_getLast? hlent.last)
    exact isSome_connections_run hfound _
  · obtain ⟨rfl, config, journal, hmoves⟩ := moves_of_connected hop hreply
    rw [run_cons, run_nil, step_eq_moves, hmoves, moveAll_cons, moveAll_nil,
      get?_connections_move, if_neg (by simp [Move.connection?]), if_pos rfl]
    rfl

theorem neverHanded_of_new {ops : List Op} {c : Nat}
    (h : (run {} ops).connections.get? c = none) : NeverHanded ops c := by
  rintro before op later rfl hout
  have hmade := isSome_of_handsOut ⟨before, rfl⟩ hout
  have hkept := isSome_connections_run hmade later
  rw [← run_append, ← run_append, List.singleton_append, h] at hkept
  cases hkept

omit [Scheduler] in
theorem split_snoc {α : Type} {l before after : List α} {x y : α}
    (h : l ++ [x] = before ++ y :: after) :
    (before = l ∧ y = x) ∨ ∃ rest, l = before ++ y :: rest := by
  rcases List.eq_nil_or_concat after with rfl | ⟨rest, z, rfl⟩
  · obtain ⟨rfl, hlast⟩ := List.append_inj' h rfl
    exact .inl ⟨rfl, (List.singleton_inj.1 hlast).symm⟩
  · right
    refine ⟨rest, ?_⟩
    rw [List.concat_eq_append, ← List.cons_append, ← List.append_assoc] at h
    exact (List.append_inj' h rfl).1

omit [Scheduler] in
theorem exists_split_snoc {α : Type} {P : List α → α → Prop} {l : List α} {x : α} :
    (∃ before y after, l ++ [x] = before ++ y :: after ∧ P before y) ↔
      (∃ before y after, l = before ++ y :: after ∧ P before y) ∨ P l x := by
  constructor
  · rintro ⟨before, y, after, hsplit, hP⟩
    rcases split_snoc hsplit with ⟨rfl, rfl⟩ | ⟨rest, hrest⟩
    · exact .inr hP
    · exact .inl ⟨before, y, rest, hrest, hP⟩
  · rintro (⟨before, y, after, rfl, hP⟩ | hP)
    · exact ⟨before, y, after ++ [x], by simp, hP⟩
    · exact ⟨l, x, [], rfl, hP⟩

theorem NeverHanded.snoc {ops : List Op} {op : Op} {c : Nat} (h : NeverHanded ops c)
    (hop : ¬ (run {} ops).HandsOut op c) : NeverHanded (ops ++ [op]) c := by
  intro before op' later hsplit
  rcases split_snoc hsplit with ⟨rfl, rfl⟩ | ⟨rest, hrest⟩
  · exact hop
  · exact h before op' rest hrest

theorem AddedIdle.snoc {ops : List Op} {p c : Nat} (h : AddedIdle ops p c) (op : Op) :
    AddedIdle (ops ++ [op]) p c := by
  obtain ⟨before, share, later, rfl, hreply⟩ := h
  exact ⟨before, share, later ++ [op], by simp, hreply⟩

theorem orderly_run {ops : List Op} (hops : ∀ op ∈ ops, op.isRevival = false) :
    (run {} ops).Orderly := by
  induction ops using List.reverseRecOn with
  | nil => exact ⟨fun c => Nat.zero_le 1, fun c h => absurd h (Nat.lt_irrefl 0)⟩
  | append_singleton ops op ih =>
    rw [run_append, run_cons, run_nil]
    exact orderly_step (ih fun o ho => hops o (List.mem_append_left _ ho))
      (hops op (List.mem_append_right _ (List.mem_singleton_self op)))

/-- An idle connection that is not closed was made by `addIdle`, and nobody has had it. -/
theorem fresh_of_idleOpen {ops : List Op} (hops : ∀ op ∈ ops, op.isRevival = false) {p c : Nat}
    (hidle : (run {} ops).IdleIn p c) (hopen : (run {} ops).isReturned c = false) :
    AddedIdle ops p c ∧ NeverHanded ops c := by
  induction ops using List.reverseRecOn with
  | nil =>
    obtain ⟨pool, hp, -⟩ := hidle
    simp at hp
  | append_singleton ops op ih =>
    have hbefore : ∀ o ∈ ops, o.isRevival = false :=
      fun o ho => hops o (List.mem_append_left _ ho)
    have hrevival : op.isRevival = false :=
      hops op (List.mem_append_right _ (List.mem_singleton_self op))
    rw [run_append, run_cons, run_nil] at hidle hopen
    rcases idleOpen_step (orderly_run hbefore) hrevival hidle hopen with
      ⟨hidle', hopen', hout⟩ | ⟨rfl, share, rfl, hreply⟩
    · obtain ⟨hadded, hnever⟩ := ih hbefore hidle' hopen'
      exact ⟨hadded.snoc op, hnever.snoc hout⟩
    · have hnew : (run {} ops).connections.get? (run {} ops).connections.next = none :=
        Roster.get?_next _
      refine ⟨⟨ops, share, [], rfl, hreply⟩, (neverHanded_of_new hnew).snoc ?_⟩
      rintro (⟨q, loan, hop, -⟩ | ⟨q, share', hop | hop, -⟩) <;> cases hop

/-- Where the connections of the run `ops` stand. -/
structure OnePlaceEach (ops : List Op) : Prop where
  once : ∀ c, (run {} ops).places c ≤ 1
  idle : ∀ p c, (run {} ops).IdleIn p c →
    (run {} ops).isReturned c = true ∨ AddedIdle ops p c ∧ NeverHanded ops c
  /-- What is lent was closed, or nobody has had it. -/
  lent : ∀ before p loan later, ops = before ++ .pool p .borrow :: later →
    (run {} before).Lends p loan →
    (run {} before).isReturned loan.connection = true ∨ NeverHanded before loan.connection
  /-- What was discarded at any time in the run is not idle and cannot be lent. -/
  discarded : ∀ before later p c, ops = before ++ later → (run {} before).DiscardedIn p c →
    (∀ q, ¬ (run {} ops).IdleIn q c) ∧
      ∀ q loan, (run {} ops).Lends q loan → loan.connection ≠ c

theorem Lends.idleIn {w : Session} {p : Nat} {loan : Loan} (h : w.Lends p loan) :
    w.IdleIn p loan.connection := by
  obtain ⟨pool, hlent⟩ := h.lent
  exact ⟨pool, hlent.found, List.mem_of_getLast? hlent.last⟩

/-- If connections are revived by borrows only, each is in one place at most. -/
theorem one_place_each {ops : List Op} (hops : ∀ op ∈ ops, op.isRevival = false) :
    OnePlaceEach ops where
  once := (orderly_run hops).once
  idle := by
    intro p c hidle
    cases hreturned : (run {} ops).isReturned c with
    | true => exact .inl rfl
    | false => exact .inr (fresh_of_idleOpen hops hidle hreturned)
  lent := by
    rintro before p loan later rfl hlends
    have hbefore : ∀ op ∈ before, op.isRevival = false :=
      fun op hop => hops op (List.mem_append_left _ hop)
    cases hreturned : (run {} before).isReturned loan.connection with
    | true => exact .inl rfl
    | false => exact .inr (fresh_of_idleOpen hbefore hlends.idleIn hreturned).2
  discarded := by
    rintro before later p c rfl hdiscarded
    have hstill : (run {} (before ++ later)).DiscardedIn p c := by
      rw [run_append]
      exact discardedIn_run hdiscarded later
    have hnot := not_idleIn_of_discardedIn (orderly_run hops) hstill
    refine ⟨hnot, ?_⟩
    rintro q loan hlends rfl
    exact hnot q hlends.idleIn

end

section

attribute [local instance] Scheduler.exact

/-- A connection is lent twice, closed late by its first borrower, broken and discarded. -/
def wornOut : List Op :=
  [.newPool .recycling, .pool 0 (.addIdle none), .pool 0 .borrow, .connection 1 .close,
    .pool 0 .borrow, .connection 1 .markBroken, .connection 1 .close, .connection 1 .close]

theorem one_place_each_wornOut :
    (∀ op ∈ wornOut, op.isRevival = false) ∧ OnePlaceEach wornOut ∧
      (run {} wornOut).places 1 = 1 ∧ (run {} wornOut).DiscardedIn 0 1 := by
  refine ⟨by decide, one_place_each (by decide), by decide, ?_⟩
  exact ⟨_, rfl, by decide⟩

end

end Session

end ConnLease
