import ConnLease.Proofs.Session.Alike

/-!
# Time goes unnoticed

Apart from the reports that it brings, the passing of time changes only whether a leak check is
pending or has fired. Two runs whose operations differ in nothing but when and for how long they
let time pass lead through alike sessions, and every other operation gets the same answer in both,
up to the phases that the answer shows.

Main statement: `time_goes_unnoticed`.
-/

namespace ConnLease

namespace Session

/-! ## Answers without the phases of leak checks -/

def ConnectionView.blind (v : ConnectionView) : ConnectionView := { v with leak := .unarmed }

def PoolView.blind (v : PoolView) : PoolView :=
  { v with releases := v.releases.map Release.blind, idle := v.idle.map Metadata.blind }

def Loan.blind (l : Loan) : Loan := { l with view := l.view.blind }

def Value.blind : Value → Value
  | .loan l => .loan (l.map Loan.blind)
  | .pool v => .pool v.blind
  | .releases rs => .releases (rs.map Release.blind)
  | .lifecycle closed broken _ => .lifecycle closed broken .unarmed
  | .metadata m => .metadata m.blind
  | v => v

def Reply.blind : Reply → Reply
  | .missing what => .missing what
  | .outcome (.ok v) => .outcome (.ok v.blind)
  | .outcome o => .outcome o.blind

/-- The answers `r` and `r'` to an operation differ at most in the phases of leak checks. The text
that describes a connection names the phase in its middle. -/
inductive SameAnswer : Op → Reply → Reply → Prop
  | blind {op : Op} {r r' : Reply} : r'.blind = r.blind → SameAnswer op r r'
  | text (c : Nat) (front back : String) (phase phase' : LeakPhase) :
    SameAnswer (.connection c .describe) (.ok (.text (front ++ phase.label ++ back)))
      (.ok (.text (front ++ phase'.label ++ back)))

/-! ## Operations -/

namespace Alike

variable {w w' : Session}

section Operations

variable (h : Alike w w')
include h

theorem lifecycle (c : Nat) (conn : Connection) (op : LifecycleOp) :
    Alike (w.lifecycle c conn op).1 (w'.lifecycle c conn op).1 ∧
      (w'.lifecycle c conn op).2.blind = (w.lifecycle c conn op).2.blind := by
  cases op with
  | markBroken => exact ⟨h.markBroken c, rfl⟩
  | revive => exact ⟨h.revive c, rfl⟩
  | touch => exact ⟨h.onConnection c _, rfl⟩
  | setLastAccess millis => exact ⟨h.onConnection c _, rfl⟩
  | state => exact ⟨h, rfl⟩
  | metadata => exact ⟨h, rfl⟩

theorem newPool (setup : PoolSetup) : Agree (w.newPool setup) (w'.newPool setup) := by
  have hnext := h.next_pools
  cases setup with
  | recording =>
    unfold Session.newPool
    rw [hnext]
    exact ⟨h.addPool _, rfl⟩
  | recycling =>
    unfold Session.newPool
    rw [hnext]
    exact ⟨h.addPool _, rfl⟩
  | configured text timer =>
    dsimp only [Session.newPool]
    rw [h.watch.timers, hnext]
    have hlogged := h.withLog (w.log ++ LeaseConfig.parseEvents text)
      (w'.log ++ LeaseConfig.parseEvents text)
    split
    · exact ⟨h, rfl⟩
    · cases LeaseConfig.parse text with
      | error e => exact ⟨hlogged, rfl⟩
      | ok config => exact ⟨hlogged.addPool { config, timer := some timer, recycles := true }, rfl⟩

theorem connect (p : Nat) (config : LeaseConfig) (share : Option Nat) :
    Agree (w.connect p config share) (w'.connect p config share) := by
  unfold Session.connect
  rw [h.sharedJournal]
  cases w.sharedJournal share with
  | error what => exact ⟨h, rfl⟩
  | ok journal =>
    obtain ⟨hmade, hnumber⟩ := h.newConnection p config journal true
    dsimp only
    rw [hnumber]
    exact ⟨hmade, rfl⟩

/-- What a pool shows is the same in both to a blind eye. -/
theorem poolView {pool pool' : Pool} (hblind : pool'.blind = pool.blind) :
    (w'.poolView pool').blind = (w.poolView pool).blind := by
  simp only [Pool.blind, Pool.mk.injEq] at hblind
  obtain ⟨-, -, -, hreleases, hidle, hdiscarded, -⟩ := hblind
  unfold Session.poolView PoolView.blind
  dsimp only
  rw [hreleases, hidle, hdiscarded, h.connections, List.map_filterMap, List.map_filterMap]
  congr 1
  apply List.filterMap_congr
  intro c _
  rw [Option.map_map, Option.map_map]
  rfl

theorem performBorrow [Scheduler] (p : Nat) (pool pool' : Pool) :
    Alike (w.performPool p pool .borrow).1 (w'.performPool p pool' .borrow).1 ∧
      (w'.performPool p pool' .borrow).2.blind = (w.performPool p pool .borrow).2.blind := by
  obtain ⟨hborrowed, hanswer⟩ := h.borrow p
  dsimp only [Session.performPool]
  generalize w.borrow p = call at hborrowed hanswer
  generalize w'.borrow p = call' at hborrowed hanswer
  obtain ⟨u, outcome⟩ := call
  obtain ⟨u', outcome'⟩ := call'
  cases outcome with
  | ok lent =>
    cases outcome' with
    | ok lent' =>
      obtain rfl : lent' = lent := Outcome.ok.inj hanswer
      cases lent' with
      | none => exact ⟨hborrowed, rfl⟩
      | some c =>
        refine ⟨hborrowed, ?_⟩
        dsimp only
        rw [hborrowed.connections, h.heldConnection?]
        cases u.connections.get? c <;> rfl
    | err e => cases hanswer
    | panicked label => cases hanswer
  | err e =>
    cases outcome' with
    | ok lent => cases hanswer
    | err e' =>
      have herror : e'.blind = e.blind := Outcome.err.inj hanswer
      exact ⟨hborrowed, congrArg (fun e => Reply.outcome (.err e)) herror⟩
    | panicked label => cases hanswer
  | panicked label =>
    cases outcome' with
    | ok lent => cases hanswer
    | err e' => cases hanswer
    | panicked label' =>
      obtain rfl : label' = label := Outcome.panicked.inj hanswer
      exact ⟨hborrowed, rfl⟩

theorem performPool [Scheduler] (p : Nat) {pool pool' : Pool} (hblind : pool'.blind = pool.blind)
    (op : PoolOp) :
    Alike (w.performPool p pool op).1 (w'.performPool p pool' op).1 ∧
      (w'.performPool p pool' op).2.blind = (w.performPool p pool op).2.blind := by
  have hconfig : pool'.config = pool.config := (congrArg Pool.config hblind :)
  have hreleases : pool'.releases.map Release.blind = pool.releases.map Release.blind :=
    (congrArg Pool.releases hblind :)
  have hidle : pool'.idle = pool.idle := (congrArg Pool.idle hblind :)
  cases op with
  | connect share =>
    obtain ⟨hmade, hanswer⟩ := h.connect p pool.config share
    unfold Session.performPool
    rw [hconfig, hanswer]
    exact ⟨hmade, rfl⟩
  | connectPlain share =>
    obtain ⟨hmade, hanswer⟩ := h.connect p {} share
    unfold Session.performPool
    rw [hanswer]
    exact ⟨hmade, rfl⟩
  | addIdle share =>
    dsimp only [Session.performPool]
    rw [h.sharedJournal, hconfig]
    cases w.sharedJournal share with
    | error what => exact ⟨h, rfl⟩
    | ok journal =>
      obtain ⟨hadded, hnumber⟩ := h.addIdle p pool.config journal
      dsimp only
      rw [hnumber]
      exact ⟨hadded, rfl⟩
  | borrow => exact h.performBorrow p pool pool'
  | inspect => exact ⟨h, congrArg (Reply.ok ∘ Value.pool) (h.poolView hblind)⟩
  | releasesOf c =>
    refine ⟨h, congrArg (fun rs => Reply.ok (.releases rs)) ?_⟩
    have hfilter : ∀ rs : List Release, (rs.filter (·.connection == c)).map Release.blind =
        (rs.map Release.blind).filter (·.connection == c) := by
      intro rs
      rw [List.filter_map]
      rfl
    rw [hfilter, hfilter, hreleases]
  | evict =>
    obtain ⟨hevicted, hnumber⟩ := h.evict p
    dsimp only [Session.performPool]
    rw [hnumber]
    exact ⟨hevicted, rfl⟩
  | idle c op =>
    dsimp only [Session.performPool]
    rw [h.connections, hidle]
    cases (w.connections.get? c).filter fun _ => pool.idle.contains c with
    | none => exact ⟨h, rfl⟩
    | some conn =>
      obtain ⟨hdone, hvalue⟩ := h.lifecycle c conn op
      exact ⟨hdone, congrArg Reply.ok hvalue⟩

theorem performConnection [Scheduler] (c : Nat) (conn : Connection) (op : ConnectionOp) :
    Alike (w.performConnection c conn op).1 (w'.performConnection c conn op).1 ∧
      SameAnswer (.connection c op) (w.performConnection c conn op).2
        (w'.performConnection c conn op).2 := by
  have same : ∀ {r r' : Reply}, r' = r → SameAnswer (.connection c op) r r' :=
    fun h => .blind (congrArg Reply.blind h)
  cases op with
  | close =>
    obtain ⟨hclosed, houtcome⟩ := h.close c
    refine ⟨hclosed, same ?_⟩
    exact congrArg (fun o : Outcome Unit => Reply.outcome (o.map fun _ => .unit)) houtcome
  | closeConcurrently threads =>
    obtain ⟨hclosed, htally⟩ := h.closeConcurrently c threads
    exact ⟨hclosed, same (congrArg (fun t => Reply.ok (.tally t)) htally)⟩
  | revive => exact ⟨h.revive c, same rfl⟩
  | reassign p =>
    rcases h.heldPool_cases p with ⟨hp, hp'⟩ | ⟨pool, pool', hp, hp', -⟩
    · simp only [Session.performConnection, hp, hp']
      exact ⟨h, same rfl⟩
    · simp only [Session.performConnection, hp, hp']
      exact ⟨h.reassign c p, same rfl⟩
  | markBroken => exact ⟨h.markBroken c, same rfl⟩
  | inspect e => exact ⟨h.inspect c e, same rfl⟩
  | arm threshold timer =>
    dsimp only [Session.performConnection]
    rw [h.watch.timers]
    split
    · exact ⟨h, same rfl⟩
    · rcases h.arm c threshold timer with ⟨e, e', he, he', hblind⟩ | ⟨u, u', hu, hu', halike⟩
      · rw [he, he']
        exact ⟨h, .blind (congrArg (fun e => Reply.outcome (.err e)) hblind)⟩
      · rw [hu, hu']
        exact ⟨halike, same rfl⟩
  | hasPlace => exact ⟨h, same rfl⟩
  | touch => exact ⟨h.onConnection c _, same rfl⟩
  | lifecycle op =>
    obtain ⟨hdone, hvalue⟩ := h.lifecycle c conn op
    exact ⟨hdone, .blind (congrArg (fun v => Reply.ok v) hvalue)⟩
  | register s =>
    dsimp only [Session.performConnection]
    rw [h.heldStatement?]
    cases w.heldStatement? s with
    | none => exact ⟨h, same rfl⟩
    | some statement =>
      obtain ⟨hregistered, htracked⟩ := h.register c s
      exact ⟨hregistered, same (congrArg (fun b => Reply.ok (.flag b)) htracked)⟩
  | unregister s => exact ⟨h.unregister c s, same rfl⟩
  | countOpen => exact ⟨h, same rfl⟩
  | openStatement call =>
    obtain ⟨hopened, hanswer⟩ := h.openStatement c call
    dsimp only [Session.performConnection]
    generalize w.openStatement c call = opened at hopened hanswer
    generalize w'.openStatement c call = opened' at hopened hanswer
    obtain ⟨u, outcome⟩ := opened
    obtain ⟨u', outcome'⟩ := opened'
    obtain rfl : outcome' = outcome := hanswer
    cases outcome' with
    | ok s =>
      have hstatements : u'.statements = u.statements := hopened.statements
      refine ⟨hopened, same ?_⟩
      dsimp only
      rw [hstatements]
      cases u.statements.get? s with
      | none => rfl
      | some statement =>
        exact congrArg (fun v => Reply.ok (.statement v)) (hopened.statementView s statement)
    | err e => exact ⟨hopened, same rfl⟩
    | panicked label => exact ⟨hopened, same rfl⟩
  | perform call =>
    obtain ⟨hperformed, houtcome⟩ := h.perform c call
    refine ⟨hperformed, same ?_⟩
    dsimp only [Session.performConnection]
    rw [houtcome]
  | failDriver e => exact ⟨h.inspect c e, same rfl⟩
  | closeOnOpen => exact ⟨h.onConnection c _, same rfl⟩
  | describe => exact ⟨h, .text c _ _ (w.watch.phase conn.detector) (w'.watch.phase conn.detector)⟩

theorem performStatement (s : Nat) (statement : Statement) (op : StatementOp) :
    Agree (w.performStatement s statement op) (w'.performStatement s statement op) := by
  cases op with
  | close =>
    obtain ⟨hclosed, houtcome⟩ := h.closeStatement s
    refine ⟨hclosed, ?_⟩
    exact congrArg (fun o : Outcome Unit => Reply.outcome (o.map fun _ => .unit)) houtcome
  | inspect => exact ⟨h, congrArg (fun v => Reply.ok (.statement v)) (h.statementView s statement)⟩
  | use failure =>
    obtain ⟨hused, houtcome⟩ := h.useStatement s failure
    exact ⟨hused, congrArg (fun o : Outcome String => Reply.outcome (o.map .text)) houtcome⟩
  | describe => exact ⟨h, rfl⟩

end Operations

end Alike

/-! ## One operation -/

def Op.isSettle : Op → Bool
  | .timer (.settle _) => true
  | _ => false

namespace Alike

variable {w w' : Session}

/-- Letting time pass leaves a session alike. -/
theorem settled [Scheduler] (h : Alike w w') {op : Op} (hop : op.isSettle = true) :
    Alike w (w'.step op).1 := by
  obtain ⟨millis, rfl⟩ : ∃ millis, op = .timer (.settle millis) := by
    unfold Op.isSettle at hop
    split at hop
    · exact ⟨_, rfl⟩
    · cases hop
  exact h.trans ⟨.settle w'.watch millis, rfl, rfl, rfl, rfl⟩

/-- Every other operation has the same answer in alike sessions and leaves alike sessions. -/
theorem step [Scheduler] (h : Alike w w') {op : Op} (hop : op.isSettle = false) :
    Alike (w.step op).1 (w'.step op).1 ∧ SameAnswer op (w.step op).2 (w'.step op).2 := by
  cases op with
  | timer op =>
    have htime : ∀ millis, op ≠ .settle millis := by
      rintro millis rfl
      cases hop
    obtain ⟨hwatch, hanswer⟩ := h.watch.operate htime
    dsimp only [Session.step]
    generalize w.watch.operate op = called at hwatch hanswer
    generalize w'.watch.operate op = called' at hwatch hanswer
    obtain ⟨v, reply, events⟩ := called
    obtain ⟨v', reply', events'⟩ := called'
    obtain ⟨rfl, rfl⟩ : reply' = reply ∧ events' = events := Prod.mk.inj hanswer
    have hdone := (h.withWatch hwatch).withLog (w.log ++ events') (w'.log ++ events')
    cases reply' with
    | missing => exact ⟨h, .blind rfl⟩
    | created | done | shutDown | inspected | notices => exact ⟨hdone, .blind rfl⟩
  | newPool setup =>
    obtain ⟨hmade, hanswer⟩ := h.newPool setup
    exact ⟨hmade, .blind (congrArg Reply.blind hanswer)⟩
  | pool p op =>
    dsimp only [Session.step]
    rcases h.heldPool_cases p with ⟨hp, hp'⟩ | ⟨pool, pool', hp, hp', hblind⟩
    · rw [hp, hp']
      exact ⟨h, .blind rfl⟩
    · rw [hp, hp']
      obtain ⟨hdone, hanswer⟩ := h.performPool p hblind op
      exact ⟨hdone, .blind hanswer⟩
  | dropPool p =>
    have hheld : (w'.heldPool? p).isSome = (w.heldPool? p).isSome := by
      rcases h.heldPool_cases p with ⟨hp, hp'⟩ | ⟨pool, pool', hp, hp', -⟩
      · rw [hp, hp']
      · rw [hp, hp']
        rfl
    refine ⟨h.onPool p ?_, .blind (congrArg (fun b => Reply.blind (.ok (.flag b))) hheld)⟩
    intro pool pool' hblind
    simp only [Pool.blind, Pool.mk.injEq] at hblind ⊢
    simp [hblind]
  | connection c op =>
    dsimp only [Session.step]
    rw [h.heldConnection?]
    cases w.heldConnection? c with
    | none => exact ⟨h, .blind rfl⟩
    | some conn => exact h.performConnection c conn op
  | dropConnection c =>
    have hheld := congrArg Option.isSome (h.heldConnection? c)
    exact ⟨h.onConnection c _, .blind (congrArg (fun b => Reply.blind (.ok (.flag b))) hheld)⟩
  | statement s op =>
    dsimp only [Session.step]
    rw [h.heldStatement?]
    cases w.heldStatement? s with
    | none => exact ⟨h, .blind rfl⟩
    | some statement =>
      obtain ⟨hdone, hanswer⟩ := h.performStatement s statement op
      exact ⟨hdone, .blind (congrArg Reply.blind hanswer)⟩
  | dropStatement s =>
    have hheld := congrArg Option.isSome (h.heldStatement? s)
    exact ⟨h.onStatement s _, .blind (congrArg (fun b => Reply.blind (.ok (.flag b))) hheld)⟩
  | readJournal c =>
    dsimp only [Session.step]
    rw [h.journalOf?]
    cases w.journalOf? c with
    | none => exact ⟨h, .blind rfl⟩
    | some j => exact ⟨h, .blind rfl⟩
  | script c line =>
    dsimp only [Session.step]
    rw [h.connections]
    cases w.connections.get? c with
    | none => exact ⟨h, .blind rfl⟩
    | some conn => exact ⟨h.onJournal _ _, .blind rfl⟩

end Alike

/-! ## Runs that differ in their waiting -/

/-- What is left of a run when nobody waits. -/
def untimed (ops : List Op) : List Op := ops.filter fun op => !op.isSettle

/-- One operation of a run: the session that it finds, its answer, and the session that it
leaves. -/
structure Moment where
  before : Session
  op : Op
  reply : Reply
  after : Session

/-- The operations of a run other than letting time pass, with their answers. -/
def transcript [Scheduler] (w : Session) : List Op → List Moment
  | [] => []
  | op :: rest =>
    if op.isSettle then transcript (w.step op).1 rest
    else ⟨w, op, (w.step op).2, (w.step op).1⟩ :: transcript (w.step op).1 rest

/-- The same operation, done in alike sessions with the same answer. -/
structure SameMoment (m m' : Moment) : Prop where
  op : m'.op = m.op
  before : Alike m.before m'.before
  reply : SameAnswer m.op m.reply m'.reply
  after : Alike m.after m'.after

variable {w w' : Session}

theorem untimed_cons_of_settle {op : Op} (hop : op.isSettle = true) (rest : List Op) :
    untimed (op :: rest) = untimed rest := by
  simp [untimed, hop]

theorem untimed_cons_of_not_settle {op : Op} (hop : op.isSettle = false) (rest : List Op) :
    untimed (op :: rest) = op :: untimed rest := by
  simp [untimed, hop]

/-- A run is alike to the same run without the waiting. -/
theorem Alike.run_untimed [Scheduler] (h : Alike w w') (ops : List Op) :
    Alike (w.run ops) (w'.run (untimed ops)) := by
  induction ops generalizing w w' with
  | nil => exact h
  | cons op rest ih =>
    cases hop : op.isSettle with
    | true =>
      rw [untimed_cons_of_settle hop]
      exact ih (h.symm.settled hop).symm
    | false =>
      rw [untimed_cons_of_not_settle hop]
      exact ih (h.step hop).1

/-- Time may pass before a run without its transcript showing it. -/
theorem transcript_wait [Scheduler] (h : Alike w w') {waiting : List Op}
    (hwaiting : ∀ op ∈ waiting, op.isSettle = true) (ops : List Op) :
    ∃ u, Alike w u ∧ transcript w' (waiting ++ ops) = transcript u ops := by
  induction waiting generalizing w' with
  | nil => exact ⟨w', h, rfl⟩
  | cons op rest ih =>
    have hop : op.isSettle = true := hwaiting op List.mem_cons_self
    have hrest : ∀ op ∈ rest, op.isSettle = true :=
      fun x hx => hwaiting x (List.mem_cons_of_mem _ hx)
    obtain ⟨u, hu, hsame⟩ := ih (h.settled hop) hrest
    refine ⟨u, hu, ?_⟩
    rw [← hsame, List.cons_append, transcript, if_pos hop]

theorem transcript_of_untimed_nil [Scheduler] (w : Session) {ops : List Op} (h : untimed ops = []) :
    transcript w ops = [] := by
  have hwaiting : ∀ op ∈ ops, op.isSettle = true := by simpa [untimed] using h
  obtain ⟨u, -, hsame⟩ := transcript_wait (Alike.refl w) hwaiting []
  rwa [List.append_nil] at hsame

/-- From alike sessions, runs with the same operations but for the waiting have the same
transcript. By induction on one of them; the other one catches up by waiting. -/
theorem Alike.transcript [Scheduler] (h : Alike w w') {ops ops' : List Op}
    (hsame : untimed ops = untimed ops') :
    List.Forall₂ SameMoment (w.transcript ops) (w'.transcript ops') := by
  induction ops generalizing w w' ops' with
  | nil =>
    rw [transcript_of_untimed_nil w' hsame.symm]
    exact .nil
  | cons op rest ih =>
    cases hop : op.isSettle with
    | true =>
      rw [untimed_cons_of_settle hop] at hsame
      rw [Session.transcript, if_pos hop]
      exact ih (h.symm.settled hop).symm hsame
    | false =>
      rw [untimed_cons_of_not_settle hop] at hsame
      obtain ⟨waiting, rest', rfl, hwaiting, -, hrest⟩ := List.filter_eq_cons_iff.1 hsame.symm
      obtain ⟨u, hu, hcaughtUp⟩ := transcript_wait h (by simpa using hwaiting) (op :: rest')
      obtain ⟨hafter, hreply⟩ := hu.step hop
      rw [hcaughtUp, Session.transcript, Session.transcript, if_neg (by simp [hop]),
        if_neg (by simp [hop])]
      exact .cons ⟨rfl, hu, hreply, hafter⟩ (ih hafter hrest.symm)

/-- Nothing but reports and phases tells two runs apart. -/
structure Unnoticed [Scheduler] (ops ops' : List Op) : Prop where
  /-- Operation by operation, both find alike sessions, get the same answers and leave alike
  sessions. -/
  moments : List.Forall₂ SameMoment (transcript {} ops) (transcript {} ops')
  /-- The sessions are alike at all corresponding points, those in the midst of waiting too. -/
  points : ∀ before after before' after', ops = before ++ after → ops' = before' ++ after' →
    untimed before = untimed before' → Alike (run {} before) (run {} before')

/-- Two runs with the same operations, but for when and for how long they let time pass, cannot be
told apart by anything but reports and phases of leak checks. -/
theorem time_goes_unnoticed [Scheduler] (ops ops' : List Op) (h : untimed ops = untimed ops') :
    Unnoticed ops ops' where
  moments := (Alike.refl {}).transcript h
  points := by
    intro before after before' after' _ _ hbefore
    have hrun := (Alike.refl {}).run_untimed before
    have hrun' := (Alike.refl {}).run_untimed before'
    rw [← hbefore] at hrun'
    exact hrun.trans hrun'.symm

section

attribute [local instance] Scheduler.exact

/-- A connection is kept for `millis` milliseconds with a check due after a second. -/
def keptFor (millis : Nat) : List Op :=
  [.timer (.newTimer .collect), .newPool .recycling, .pool 0 (.connect none),
    .connection 1 (.arm (.ofMillis 1000) 0), .timer (.settle millis), .connection 1 .close,
    .pool 0 .inspect]

theorem time_goes_unnoticed_keptFor :
    untimed (keptFor 2000) = untimed (keptFor 10) ∧ Unnoticed (keptFor 2000) (keptFor 10) :=
  ⟨by decide, time_goes_unnoticed _ _ (by decide)⟩

/-- The pool notes down different phases for the two. -/
example :
    ((run {} (keptFor 2000)).pools.get? 0).map (·.releases.map (·.leak)) = some [.fired] ∧
      ((run {} (keptFor 10)).pools.get? 0).map (·.releases.map (·.leak)) = some [.cancelled] := by
  decide

end

end Session

end ConnLease
