import ConnLease.Proofs.Session.Close

/-!
# Sessions that are alike

Two sessions are alike if they have the same connections, statements, journals and timers, and
pools that differ at most in the phases of leak checks that are noted down with the releases. What
has become of the checks, what time it is, what was reported and what was logged may differ. Every
function of a session takes alike sessions to alike sessions and answers the same, but for a phase
in a refusal.
-/

namespace ConnLease

/-! ## Looking away from the phases of leak checks -/

def LeaseError.blind : LeaseError → LeaseError
  | .leakDetection c _ => .leakDetection c .unarmed
  | e => e

def Metadata.blind (m : Metadata) : Metadata := { m with leak := .unarmed }

def Release.blind (r : Release) : Release := { r with leak := .unarmed }

def Pool.blind (p : Pool) : Pool := { p with releases := p.releases.map Release.blind }

def Outcome.blind {α : Type} : Outcome α → Outcome α
  | .err e => .err e.blind
  | o => o

/-! ## Watches -/

namespace Leak.Watch

/-- The same timers, and as many checks. What has become of the checks, and what time it is, may
differ. -/
structure Alike (v v' : Watch) : Prop where
  timers : v'.timers = v.timers
  checks : v'.checks.next = v.checks.next

/-- An unarmed detector is one without a check. -/
theorem phase_eq_unarmed_iff (v : Watch) (d : Detector) :
    v.phase d = .unarmed ↔ ∀ n, d.check = some n → v.checks.next ≤ n := by
  have hphase : ∀ status : CheckStatus, status.phase ≠ .unarmed := by
    intro status
    cases status <;> simp [CheckStatus.phase]
  obtain ⟨_ | n⟩ := d
  · simp [phase]
  · have hsome := v.checks.isSome_get?_iff n
    unfold phase
    cases hn : v.checks.get? n with
    | none =>
      have hle : v.checks.next ≤ n := by
        rw [hn] at hsome
        simpa using hsome
      simpa [hn] using hle
    | some check =>
      have hlt : n < v.checks.next := by
        rw [hn] at hsome
        exact (hsome.1 rfl).2
      simp [hn, hphase, hlt]

theorem size_setStatus (v : Watch) (n : Nat) (status : CheckStatus) :
    (v.setStatus n status).checks.next = v.checks.next := by
  simp [setStatus]

theorem next_cancel (v : Watch) (d : Detector) : (v.cancel d).1.checks.next = v.checks.next := by
  unfold cancel
  split
  · split
    · exact size_setStatus v _ _
    · rfl
  · rfl

theorem next_settle (v : Watch) (millis : Nat) :
    (v.settle millis).1.checks.next = v.checks.next := by
  simp [settle, Roster.next, Roster.size, Roster.map]

namespace Alike

variable {v v' : Watch}

theorem refl (v : Watch) : Alike v v := ⟨rfl, rfl⟩

theorem phase_iff (h : Alike v v') (d : Detector) :
    v'.phase d = .unarmed ↔ v.phase d = .unarmed := by
  rw [phase_eq_unarmed_iff, phase_eq_unarmed_iff, h.checks]

theorem cancel (h : Alike v v') (d : Detector) : Alike (v.cancel d).1 (v'.cancel d).1 where
  timers := by rw [(cancel_fields v' d).2.1, (cancel_fields v d).2.1, h.timers]
  checks := by rw [next_cancel, next_cancel, h.checks]

/-- Arming is refused in both for the same reason, or schedules the check with the same number. -/
theorem arm [Scheduler] (h : Alike v v') (d : Detector) (c : Nat) (threshold : Duration)
    (timer : Nat) :
    (∃ e e', v.arm d c threshold timer = .error e ∧ v'.arm d c threshold timer = .error e' ∧
        e'.blind = e.blind) ∨
      ∃ u u' d', v.arm d c threshold timer = .ok (u, d') ∧
        v'.arm d c threshold timer = .ok (u', d') ∧ Alike u u' := by
  have hphase := h.phase_iff d
  unfold Watch.arm
  by_cases hu : v.phase d = .unarmed
  · have hu' := hphase.2 hu
    rw [if_neg (by simp [hu]), if_neg (by simp [hu']), h.timers]
    cases ht : v.timers.get? timer with
    | none => exact .inl ⟨_, _, rfl, rfl, rfl⟩
    | some t =>
      obtain ⟨reporter, shutDown⟩ := t
      cases shutDown with
      | true => exact .inl ⟨_, _, rfl, rfl, rfl⟩
      | false =>
        dsimp only
        rw [h.checks]
        exact .inr ⟨_, _, _, rfl, rfl, rfl, by rw [Roster.next_push, Roster.next_push, h.checks]⟩
  · have hu' := fun he => hu (hphase.1 he)
    rw [if_pos hu, if_pos hu']
    exact .inl ⟨_, _, rfl, rfl, rfl⟩

/-- Operating the timers, other than letting time pass, goes the same way in both. -/
theorem operate (h : Alike v v') {op : TimerOp} (hop : ∀ millis, op ≠ .settle millis) :
    Alike (v.operate op).1 (v'.operate op).1 ∧ (v'.operate op).2 = (v.operate op).2 := by
  cases op with
  | settle millis => exact absurd rfl (hop millis)
  | newTimer reporter =>
    dsimp only [Watch.operate]
    rw [h.timers]
    exact ⟨⟨rfl, h.checks⟩, rfl⟩
  | shutDown timer | inspect timer | closeChannel timer =>
    dsimp only [Watch.operate]
    rw [h.timers]
    cases v.timers.get? timer with
    | none => exact ⟨h, rfl⟩
    | some t => first | exact ⟨h, rfl⟩ | exact ⟨⟨rfl, h.checks⟩, rfl⟩

/-- Time that passes in one of them does not show. -/
theorem settle (v : Watch) (millis : Nat) : Alike v (v.settle millis).1 where
  timers := rfl
  checks := next_settle v millis

end Alike

end Leak.Watch

namespace Session

/-- Two sessions that differ at most in the phases of leak checks, the time, the reports and the
log. -/
structure Alike (w w' : Session) : Prop where
  watch : Leak.Watch.Alike w.watch w'.watch
  journals : w'.journals = w.journals
  pools : w'.pools.map Pool.blind = w.pools.map Pool.blind
  connections : w'.connections = w.connections
  statements : w'.statements = w.statements

/-- Two calls leave alike sessions and return the same. -/
def Agree {α : Type} (r r' : Session × α) : Prop := Alike r.1 r'.1 ∧ r'.2 = r.2

/-- Two calls leave alike sessions and return the same to a blind eye. -/
def AgreeBlind {α : Type} (r r' : Session × Outcome α) : Prop :=
  Alike r.1 r'.1 ∧ r'.2.blind = r.2.blind

namespace Alike

variable {w w' : Session}

theorem refl (w : Session) : Alike w w := ⟨.refl _, rfl, rfl, rfl, rfl⟩

theorem symm (h : Alike w w') : Alike w' w :=
  ⟨⟨h.watch.timers.symm, h.watch.checks.symm⟩, h.journals.symm, h.pools.symm,
    h.connections.symm, h.statements.symm⟩

theorem trans {w'' : Session} (h : Alike w w') (h' : Alike w' w'') : Alike w w'' :=
  ⟨⟨h'.watch.timers.trans h.watch.timers, h'.watch.checks.trans h.watch.checks⟩,
    h'.journals.trans h.journals, h'.pools.trans h.pools, h'.connections.trans h.connections,
    h'.statements.trans h.statements⟩

/-! ## What alike sessions show -/

section Shown

variable (h : Alike w w')
include h

theorem isClosed (c : Nat) : w'.isClosed c = w.isClosed c := by
  unfold Session.isClosed
  rw [h.connections]

theorem isBroken : w'.isBroken = w.isBroken := by
  funext c
  unfold Session.isBroken
  rw [h.connections]

theorem wire (conn : Connection) : w'.wire conn = w.wire conn := by
  unfold Session.wire
  rw [h.journals]

theorem journalOf? (c : Nat) : w'.journalOf? c = w.journalOf? c := by
  unfold Session.journalOf?
  rw [h.connections, h.journals]

theorem sharedJournal (share : Option Nat) : w'.sharedJournal share = w.sharedJournal share := by
  unfold Session.sharedJournal
  rw [h.connections]

theorem heldConnection? (c : Nat) : w'.heldConnection? c = w.heldConnection? c := by
  unfold Session.heldConnection?
  rw [h.connections]

theorem heldStatement? (s : Nat) : w'.heldStatement? s = w.heldStatement? s := by
  unfold Session.heldStatement?
  rw [h.statements]

/-- A pool is missing in both, or there in both and the same to a blind eye. -/
theorem pool_cases (p : Nat) :
    (w.pools.get? p = none ∧ w'.pools.get? p = none) ∨ ∃ pool pool',
      w.pools.get? p = some pool ∧ w'.pools.get? p = some pool' ∧ pool'.blind = pool.blind := by
  have hget := congrArg (·.get? p) h.pools
  simp only [Roster.get?_map] at hget
  cases hp : w.pools.get? p with
  | none =>
    rw [hp, Option.map_none, Option.map_eq_none_iff] at hget
    exact .inl ⟨rfl, hget⟩
  | some pool =>
    rw [hp, Option.map_some] at hget
    obtain ⟨pool', hp', hblind⟩ := Option.map_eq_some_iff.1 hget
    exact .inr ⟨pool, pool', rfl, hp', hblind⟩

theorem next_pools : w'.pools.next = w.pools.next := by
  have hsize := congrArg (·.toList.length) h.pools
  simp only [Roster.map, List.length_map] at hsize
  simp only [Roster.next, Roster.size, hsize]

theorem connectionLives (c : Nat) : w'.connectionLives c = w.connectionLives c := by
  have hidle : ∀ r : Roster 0 Pool, (r.toList.any fun pool => pool.held && pool.idle.contains c) =
      (r.map Pool.blind).toList.any fun pool => pool.held && pool.idle.contains c := by
    intro r
    simp only [Roster.map, List.any_map]
    rfl
  unfold Session.connectionLives
  rw [h.connections, hidle w'.pools, h.pools, ← hidle]

theorem ownerOf? (statement : Statement) : w'.ownerOf? statement = w.ownerOf? statement := by
  unfold Session.ownerOf?
  rw [h.connectionLives]

theorem statementView (s : Nat) (statement : Statement) :
    w'.statementView s statement = w.statementView s statement := by
  unfold Session.statementView
  rw [h.connectionLives]

/-- A pool is held in both or in neither. -/
theorem heldPool_cases (p : Nat) :
    (w.heldPool? p = none ∧ w'.heldPool? p = none) ∨ ∃ pool pool',
      w.heldPool? p = some pool ∧ w'.heldPool? p = some pool' ∧ pool'.blind = pool.blind := by
  unfold Session.heldPool?
  rcases h.pool_cases p with ⟨hp, hp'⟩ | ⟨pool, pool', hp, hp', hblind⟩
  · exact .inl ⟨by rw [hp]; rfl, by rw [hp']; rfl⟩
  · have hheld : pool'.held = pool.held := (congrArg Pool.held hblind :)
    rw [hp, hp', Option.filter_some, Option.filter_some, hheld]
    cases pool.held with
    | true => exact .inr ⟨pool, pool', rfl, rfl, hblind⟩
    | false => exact .inl ⟨rfl, rfl⟩

end Shown

/-! ## Single writes -/

section Writes

variable (h : Alike w w')
include h

theorem withLog (log log' : List LogEvent) : Alike { w with log } { w' with log := log' } :=
  ⟨h.watch, h.journals, h.pools, h.connections, h.statements⟩

theorem emit (e e' : LogEvent) : Alike (w.emit e) (w'.emit e') := h.withLog _ _

theorem withWatch {v v' : Leak.Watch} (hv : Leak.Watch.Alike v v') :
    Alike { w with watch := v } { w' with watch := v' } :=
  ⟨hv, h.journals, h.pools, h.connections, h.statements⟩

theorem onConnection (c : Nat) (f : Connection → Connection) :
    Alike (w.onConnection c f) (w'.onConnection c f) :=
  ⟨h.watch, h.journals, h.pools, congrArg (·.modify c f) h.connections, h.statements⟩

theorem onStatement (s : Nat) (f : Statement → Statement) :
    Alike (w.onStatement s f) (w'.onStatement s f) :=
  ⟨h.watch, h.journals, h.pools, h.connections, congrArg (·.modify s f) h.statements⟩

theorem onJournal (j : Nat) (f : Driver.Journal → Driver.Journal) :
    Alike (w.onJournal j f) (w'.onJournal j f) :=
  ⟨h.watch, congrArg (·.modify j f) h.journals, h.pools, h.connections, h.statements⟩

theorem onPool (p : Nat) {f f' : Pool → Pool}
    (hf : ∀ pool pool' : Pool, pool'.blind = pool.blind → (f' pool').blind = (f pool).blind) :
    Alike (w.onPool p f) (w'.onPool p f') := by
  refine ⟨h.watch, h.journals, Roster.ext_get? fun q => ?_, h.connections, h.statements⟩
  simp only [onPool_fields, Roster.get?_map, Roster.get?_modify]
  rcases h.pool_cases q with ⟨hp, hp'⟩ | ⟨pool, pool', hp, hp', hblind⟩
  · simp [hp, hp']
  · rw [hp, hp']
    split
    · exact congrArg some (hf pool pool' hblind)
    · exact congrArg some hblind

theorem addPool (pool : Pool) :
    Alike { w with pools := w.pools.push pool } { w' with pools := w'.pools.push pool } := by
  refine ⟨h.watch, h.journals, ?_, h.connections, h.statements⟩
  have hlist := congrArg Roster.toList h.pools
  simp only [Roster.map] at hlist
  simp only [Roster.map, Roster.push, List.map_append, hlist]

theorem setWire (c : Nat) (wire : Driver.Wire) : Alike (w.setWire c wire) (w'.setWire c wire) :=
  (h.onConnection c _).onJournal _ _

end Writes

/-! ## Closing -/

section Closing

variable (h : Alike w w')
include h

theorem inspect (c : Nat) (e : DriverError) : Alike (w.inspect c e) (w'.inspect c e) := by
  unfold Session.inspect
  rw [h.connections]
  cases w.connections.get? c with
  | none => exact h
  | some conn =>
    dsimp only
    split
    · exact (h.onConnection c _).emit _ _
    · exact h

theorem markBroken (c : Nat) : Alike (w.markBroken c) (w'.markBroken c) := by
  unfold Session.markBroken
  rw [h.connections]
  cases w.connections.get? c with
  | none => exact h
  | some conn =>
    dsimp only
    split
    · exact h
    · exact (h.onConnection c _).emit _ _

theorem closeAtDriver (s : Nat) : Agree (w.closeAtDriver s) (w'.closeAtDriver s) := by
  have hopen : w'.isOpenStatement s = w.isOpenStatement s := by
    unfold isOpenStatement
    rw [h.statements]
  cases ho : w.isOpenStatement s with
  | false =>
    rw [closeAtDriver_of_not_open ho, closeAtDriver_of_not_open (hopen.trans ho)]
    exact ⟨h, rfl⟩
  | true =>
    cases hs : w.statements.get? s with
    | none => simp [isOpenStatement, hs] at ho
    | some statement =>
      have hclosed : statement.closed = false := by simpa [isOpenStatement, hs] using ho
      have hs' : w'.statements.get? s = some statement := by rw [h.statements, hs]
      rw [closeAtDriver_of_open hs hclosed, closeAtDriver_of_open hs' hclosed, h.journals]
      exact ⟨(h.onStatement s _).onJournal _ _, rfl⟩

theorem cancelCheck (c : Nat) : Alike (w.cancelCheck c) (w'.cancelCheck c) := by
  cases hc : w.connections.get? c with
  | none =>
    have hc' : w'.connections.get? c = none := by rw [h.connections, hc]
    simp only [Session.cancelCheck, hc, hc']
    exact h
  | some conn =>
    have hc' : w'.connections.get? c = some conn := by rw [h.connections, hc]
    have hwatch := h.watch.cancel conn.detector
    rw [← cancelCheck_watch hc, ← cancelCheck_watch hc'] at hwatch
    refine ⟨hwatch, ?_, ?_, ?_, ?_⟩
    · simp only [cancelCheck_fields, h.journals]
    · simp only [cancelCheck_fields, h.pools]
    · simp only [cancelCheck_fields, h.connections]
    · simp only [cancelCheck_fields, h.statements]

theorem drain (c : Nat) : Agree (w.drain c) (w'.drain c) := by
  unfold Session.drain
  rw [h.connections]
  cases w.connections.get? c with
  | none => exact ⟨h, rfl⟩
  | some conn => exact ⟨h.onConnection c _, rfl⟩

theorem noteFailure (c s : Nat) (e : DriverError) :
    Alike (w.noteFailure c s e) (w'.noteFailure c s e) :=
  (h.inspect c e).emit _ _

omit h in
theorem sweep (h : Alike w w') (c : Nat) (l : List Nat) :
    Agree (w.sweep c l) (w'.sweep c l) := by
  induction l generalizing w w' with
  | nil => exact ⟨h, rfl⟩
  | cons s rest ih =>
    obtain ⟨hclosed, hresult⟩ := h.closeAtDriver s
    unfold Session.sweep
    generalize w.closeAtDriver s = call at hclosed hresult
    generalize w'.closeAtDriver s = call' at hclosed hresult
    obtain ⟨u, result⟩ := call
    obtain ⟨u', result'⟩ := call'
    obtain rfl : result' = result := hresult
    cases result' with
    | alreadyClosed => exact ih hclosed
    | closed => exact ih hclosed
    | panicked label => exact ⟨hclosed, rfl⟩
    | failed e =>
      obtain ⟨hrest, hend⟩ := ih (hclosed.noteFailure c s e)
      dsimp only
      generalize (u.noteFailure c s e).sweep c rest = more at hrest hend
      generalize (u'.noteFailure c s e).sweep c rest = more' at hrest hend
      obtain ⟨v, outcome⟩ := more
      obtain ⟨v', outcome'⟩ := more'
      obtain rfl : outcome' = outcome := hend
      cases outcome' with
      | finished failure => exact ⟨hrest, rfl⟩
      | panicked label => exact ⟨hrest, rfl⟩

omit h in
theorem blind_receive (pool : Pool) (m : Metadata) :
    (pool.receive m).blind = pool.blind.receive m.blind := by
  unfold Pool.receive Pool.blind
  have hreusable : m.blind.isReusable = m.isReusable := rfl
  rw [hreusable]
  cases pool.recycles <;> cases m.isReusable <;>
    simp [Metadata.release, Metadata.blind, Release.blind]

theorem release (c : Nat) : Alike (w.release c) (w'.release c) := by
  unfold Session.release
  rw [h.connections]
  cases w.connections.get? c with
  | none => exact h
  | some conn =>
    dsimp only
    rcases h.pool_cases conn.owner with ⟨hp, hp'⟩ | ⟨pool, pool', hp, hp', hblind⟩
    · rw [hp, hp']
      exact h.emit _ _
    · have hheld : pool'.held = pool.held := (congrArg Pool.held hblind :)
      rw [hp, hp']
      dsimp only
      rw [hheld]
      split
      · refine (h.onPool conn.owner ?_).withLog _ _
        intro taker taker' htaker
        have hmetadata : (w'.metadata c conn).blind = (w.metadata c conn).blind := rfl
        rw [blind_receive, blind_receive, htaker, hmetadata]
      · exact h.emit _ _

theorem teardown (c : Nat) : Agree (w.teardown c) (w'.teardown c) := by
  obtain ⟨hdrained, hlist⟩ := (h.cancelCheck c).drain c
  obtain ⟨hswept, hresult⟩ := hdrained.sweep c ((w.cancelCheck c).drain c).2
  rw [teardown_eq, teardown_eq, hlist]
  generalize ((w.cancelCheck c).drain c).1.sweep c _ = call at hswept hresult
  generalize ((w'.cancelCheck c).drain c).1.sweep c _ = call' at hswept hresult
  obtain ⟨u, result⟩ := call
  obtain ⟨u', result'⟩ := call'
  obtain rfl : result' = result := hresult
  cases result' with
  | finished failure => exact ⟨(hswept.emit _ _).release c, rfl⟩
  | panicked label => exact ⟨hswept.release c, rfl⟩

theorem close (c : Nat) : Agree (w.close c) (w'.close c) := by
  unfold Session.close
  rw [h.isClosed]
  split
  · exact ⟨h, rfl⟩
  · exact (h.onConnection c _).teardown c

theorem closeConcurrently (c n : Nat) :
    Agree (w.closeConcurrently c n) (w'.closeConcurrently c n) := by
  unfold Session.closeConcurrently
  cases n with
  | zero => exact ⟨h, rfl⟩
  | succ others =>
    obtain ⟨hclosed, houtcome⟩ := h.close c
    dsimp only
    rw [houtcome]
    exact ⟨hclosed.withLog _ _, rfl⟩

end Closing

/-! ## Lending -/

section Lending

variable (h : Alike w w')
include h

theorem revive (c : Nat) : Alike (w.revive c) (w'.revive c) := by
  cases hc : w.connections.get? c with
  | none =>
    have hc' : w'.connections.get? c = none := by rw [h.connections, hc]
    simp only [Session.revive, hc, hc']
    exact h
  | some conn =>
    have hc' : w'.connections.get? c = some conn := by rw [h.connections, hc]
    simp only [Session.revive, hc, hc']
    exact ((h.withWatch (h.watch.cancel conn.detector)).onConnection c _).emit _ _

/-- Arming is refused in both for the same reason, or armed in both. -/
theorem arm [Scheduler] (c : Nat) (threshold : Duration) (timer : Nat) :
    (∃ e e', w.arm c threshold timer = .error e ∧ w'.arm c threshold timer = .error e' ∧
        e'.blind = e.blind) ∨
      ∃ u u', w.arm c threshold timer = .ok u ∧ w'.arm c threshold timer = .ok u' ∧ Alike u u' := by
  cases hc : w.connections.get? c with
  | none =>
    have hc' : w'.connections.get? c = none := by rw [h.connections, hc]
    simp only [Session.arm, hc, hc']
    exact .inl ⟨_, _, rfl, rfl, rfl⟩
  | some conn =>
    have hc' : w'.connections.get? c = some conn := by rw [h.connections, hc]
    simp only [Session.arm, hc, hc']
    split
    · exact .inl ⟨_, _, rfl, rfl, rfl⟩
    · rcases h.watch.arm conn.detector c threshold timer with
        ⟨e, e', he, he', hblind⟩ | ⟨u, u', d, hu, hu', halike⟩
      · rw [he, he']
        exact .inl ⟨e, e', rfl, rfl, hblind⟩
      · rw [hu, hu']
        exact .inr ⟨_, _, rfl, rfl, ((h.withWatch halike).onConnection c _).emit _ _⟩

theorem reassign (c p : Nat) : Alike (w.reassign c p) (w'.reassign c p) :=
  (h.onConnection c _).emit _ _

theorem newConnection (p : Nat) (config : LeaseConfig) (journal : Option Nat) (held : Bool) :
    Agree (w.newConnection p config journal held) (w'.newConnection p config journal held) := by
  obtain ⟨hwatch, hjournals, hpools, hconnections, hstatements⟩ := h
  cases journal with
  | some j =>
    refine ⟨⟨hwatch, hjournals, hpools, ?_, hstatements⟩, ?_⟩
    · simp only [newConnection_fields, hconnections, Option.getD_some]
    · simp only [Session.newConnection, hconnections]
  | none =>
    refine ⟨⟨hwatch, congrArg (·.push {}) hjournals, hpools, ?_, hstatements⟩, ?_⟩
    · simp only [newConnection_fields, hconnections, hjournals]
    · simp only [Session.newConnection, hconnections]

theorem addIdle (p : Nat) (config : LeaseConfig) (journal : Option Nat) :
    Agree (w.addIdle p config journal) (w'.addIdle p config journal) := by
  obtain ⟨hmade, hnumber⟩ := h.newConnection p config journal false
  unfold Session.addIdle
  dsimp only
  rw [hnumber]
  refine ⟨hmade.onPool p ?_, rfl⟩
  intro pool pool' hblind
  simp only [Pool.blind, Pool.mk.injEq] at hblind ⊢
  simp [hblind]

theorem lend (c : Nat) : Alike (w.lend c) (w'.lend c) := (h.onConnection c _).emit _ _

theorem borrow [Scheduler] (p : Nat) : AgreeBlind (w.borrow p) (w'.borrow p) := by
  unfold Session.borrow
  rcases h.pool_cases p with ⟨hp, hp'⟩ | ⟨pool, pool', hp, hp', hblind⟩
  · rw [hp, hp']
    exact ⟨h, rfl⟩
  · have hsame := hblind
    simp only [Pool.blind, Pool.mk.injEq] at hsame
    obtain ⟨hconfig, htimer, -, -, hidle, -, -⟩ := hsame
    rw [hp, hp']
    dsimp only
    rw [hidle, hconfig, htimer]
    cases pool.idle.getLast? with
    | none => exact ⟨h, rfl⟩
    | some c =>
      have htaken : Alike (w.onPool p fun pool => { pool with idle := pool.idle.dropLast })
          (w'.onPool p fun pool => { pool with idle := pool.idle.dropLast }) := by
        refine h.onPool p ?_
        intro pool pool' hblind
        simp only [Pool.blind, Pool.mk.injEq] at hblind ⊢
        simp [hblind]
      have hready := (htaken.revive c).onConnection c fun conn => { conn with lastAccess := none }
      dsimp only
      split
      · rename_i threshold timer _ _
        rcases hready.arm c threshold timer with
          ⟨e, e', he, he', hblind⟩ | ⟨u, u', hu, hu', halike⟩
        · unfold Session.touch
          rw [he, he']
          exact ⟨hready, congrArg Outcome.err hblind⟩
        · unfold Session.touch
          rw [hu, hu']
          exact ⟨halike.lend c, rfl⟩
      · exact ⟨hready.lend c, rfl⟩

theorem evict (p : Nat) : Agree (w.evict p) (w'.evict p) := by
  unfold Session.evict
  rcases h.pool_cases p with ⟨hp, hp'⟩ | ⟨pool, pool', hp, hp', hblind⟩
  · rw [hp, hp']
    exact ⟨h, rfl⟩
  · have hidle : pool'.idle = pool.idle := (congrArg Pool.idle hblind :)
    rw [hp, hp', h.isBroken]
    dsimp only
    rw [hidle]
    refine ⟨h.onPool p ?_, rfl⟩
    intro pool pool' hblind
    simp only [Pool.blind, Pool.mk.injEq] at hblind ⊢
    simp [hblind]

end Lending

/-! ## Statements -/

section Statements

variable (h : Alike w w')
include h

theorem register (c s : Nat) : Agree (w.register c s) (w'.register c s) := by
  unfold Session.register
  rw [h.isClosed]
  split
  · exact ⟨h, rfl⟩
  · exact ⟨(h.onConnection c _).emit _ _, rfl⟩

theorem unregister (c s : Nat) : Alike (w.unregister c s) (w'.unregister c s) := by
  unfold Session.unregister
  rw [h.connections]
  cases w.connections.get? c with
  | none => exact h
  | some conn =>
    dsimp only
    split
    · exact h
    · split
      · exact h
      · exact (h.onConnection c _).emit _ _

theorem perform (c : Nat) (call : Driver.PlainCall) :
    Agree (w.perform c call) (w'.perform c call) := by
  unfold Session.perform
  rw [h.connections]
  cases w.connections.get? c with
  | none => exact ⟨h, rfl⟩
  | some conn =>
    have hwired := h.setWire c ((w.wire conn).perform call).1
    dsimp only
    rw [h.wire]
    cases ((w.wire conn).perform call).2 with
    | ok value => exact ⟨hwired, rfl⟩
    | error e => exact ⟨hwired.inspect c e, rfl⟩

theorem adopt (c : Nat) (call : Driver.OpenCall) (driver : Driver.Statement) :
    Agree (w.adopt c call driver) (w'.adopt c call driver) := by
  let statement : Statement := { connection := c, kind := call.kind, sql := call.sql?, driver }
  have hpushed : Alike { w with statements := w.statements.push statement }
      { w' with statements := w'.statements.push statement } :=
    ⟨h.watch, h.journals, h.pools, h.connections, congrArg (·.push statement) h.statements⟩
  have hnext : w'.statements.next = w.statements.next := by rw [h.statements]
  obtain ⟨hregistered, htracked⟩ := hpushed.register c w.statements.next
  unfold Session.adopt
  dsimp only
  rw [hnext]
  generalize Session.register { w with statements := w.statements.push statement } c
    w.statements.next = call at hregistered htracked ⊢
  generalize Session.register { w' with statements := w'.statements.push statement } c
    w.statements.next = call' at hregistered htracked ⊢
  obtain ⟨u, tracked⟩ := call
  obtain ⟨u', tracked'⟩ := call'
  obtain rfl : tracked' = tracked := htracked
  cases tracked' with
  | true => exact ⟨hregistered, rfl⟩
  | false => exact ⟨hregistered.emit _ _, rfl⟩

theorem closeIfAsked (c : Nat) : Agree (w.closeIfAsked c) (w'.closeIfAsked c) := by
  let forget : Connection → Connection := fun conn => { conn with closesOnOpen := false }
  obtain ⟨hclosed, houtcome⟩ := (h.onConnection c forget).close c
  unfold Session.closeIfAsked
  rw [h.connections]
  split
  · generalize (w.onConnection c forget).close c = call at hclosed houtcome ⊢
    generalize (w'.onConnection c forget).close c = call' at hclosed houtcome ⊢
    obtain ⟨u, outcome⟩ := call
    obtain ⟨u', outcome'⟩ := call'
    obtain rfl : outcome' = outcome := houtcome
    cases outcome' <;> exact ⟨hclosed, rfl⟩
  · exact ⟨h, rfl⟩

theorem openStatement (c : Nat) (call : Driver.OpenCall) :
    Agree (w.openStatement c call) (w'.openStatement c call) := by
  unfold Session.openStatement
  rw [h.connections]
  cases w.connections.get? c with
  | none => exact ⟨h, rfl⟩
  | some conn =>
    dsimp only
    split
    · exact ⟨h, rfl⟩
    · rw [h.wire]
      generalize (w.wire conn).openStatement call = called
      obtain ⟨wire, result⟩ := called
      obtain ⟨hasked, hpanic⟩ := (h.setWire c wire).closeIfAsked c
      dsimp only
      generalize (w.setWire c wire).closeIfAsked c = answer at hasked hpanic
      generalize (w'.setWire c wire).closeIfAsked c = answer' at hasked hpanic
      obtain ⟨u, panic⟩ := answer
      obtain ⟨u', panic'⟩ := answer'
      obtain rfl : panic' = panic := hpanic
      cases panic' with
      | some label => exact ⟨hasked, rfl⟩
      | none =>
        cases result with
        | error e => exact ⟨hasked.inspect c e, rfl⟩
        | ok driver =>
          obtain ⟨hadopted, hnumber⟩ := hasked.adopt c call driver
          exact ⟨hadopted, congrArg Outcome.ok hnumber⟩

theorem inspectFor (statement : Statement) (e : DriverError) :
    Alike (w.inspectFor statement e) (w'.inspectFor statement e) := by
  unfold Session.inspectFor
  rw [h.ownerOf?]
  cases w.ownerOf? statement with
  | none => exact h
  | some c => exact h.inspect c e

theorem useStatement (s : Nat) (failure : Option DriverError) :
    Agree (w.useStatement s failure) (w'.useStatement s failure) := by
  unfold Session.useStatement
  rw [h.statements]
  cases w.statements.get? s with
  | none => exact ⟨h, rfl⟩
  | some statement =>
    dsimp only
    split
    · exact ⟨h, rfl⟩
    · cases failure with
      | none => exact ⟨h, rfl⟩
      | some e => exact ⟨h.inspectFor statement e, rfl⟩

omit h in
theorem untrack (h : Alike w w') (statement : Statement) (s : Nat) :
    Alike (match w.ownerOf? statement with
        | some c => w.unregister c s
        | none => w)
      (match w'.ownerOf? statement with
        | some c => w'.unregister c s
        | none => w') := by
  rw [h.ownerOf?]
  cases w.ownerOf? statement with
  | none => exact h
  | some c => exact h.unregister c s

theorem closeStatement (s : Nat) : Agree (w.closeStatement s) (w'.closeStatement s) := by
  unfold Session.closeStatement
  rw [h.statements]
  cases w.statements.get? s with
  | none => exact ⟨h, rfl⟩
  | some statement =>
    obtain ⟨hclosed, hresult⟩ := h.closeAtDriver s
    dsimp only
    generalize w.closeAtDriver s = call at hclosed hresult
    generalize w'.closeAtDriver s = call' at hclosed hresult
    obtain ⟨u, result⟩ := call
    obtain ⟨u', result'⟩ := call'
    obtain rfl : result' = result := hresult
    cases result' with
    | alreadyClosed => exact ⟨hclosed.untrack statement s, rfl⟩
    | closed => exact ⟨(hclosed.untrack statement s).emit _ _, rfl⟩
    | failed e => exact ⟨(hclosed.untrack statement s).inspectFor statement e, rfl⟩
    | panicked label => exact ⟨hclosed, rfl⟩

end Statements

end Alike

end Session

end ConnLease
