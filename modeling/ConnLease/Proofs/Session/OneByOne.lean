import Mathlib.Data.List.Nodup
import ConnLease.Proofs.Session.Tracking

/-!
# Closing statements one by one

A caller may close the statements of a connection one after the other before the connection, or
leave them to the sweep. If the newest ones are closed by hand, newest first, and then the
connection, the session becomes what it becomes when the connection is closed alone, but for the
log: the same events in the journals, the same flags, the same release. The two ways differ in who
is told about a failure.

One statement closed by hand is the first step of the sweep together with taking the statement off
the list (`shortened_closeStatement`); the rest is an induction on the statements closed by hand.
Main statement: `one_by_one_as_swept`.
-/

namespace ConnLease.Session

/-- Close statements one after the other, each by itself. -/
def closeEach (w : Session) : List Nat → Session × List (Outcome Unit)
  | [] => (w, [])
  | s :: rest =>
    let (w, answer) := w.closeStatement s
    let (w, answers) := w.closeEach rest
    (w, answer :: answers)

/-- What the close of an open statement returns when it does not panic. -/
def closeAnswer (w : Session) (s : Nat) : Outcome Unit :=
  match w.closeError? s with
  | none => .ok ()
  | some e => .err (.driver e)

/-- The open connection `c` with the record `conn` lives, and the statements that it tracks were
opened through it, are open, and are listed once. -/
structure TracksOwn (w : Session) (c : Nat) (conn : Connection) : Prop where
  found : w.connections.get? c = some conn
  isOpen : conn.closed = false
  lives : w.connectionLives c = true
  once : (w.openIds c).Nodup
  own : ∀ s ∈ w.openIds c, w.OpenThrough c s

/-! ## One statement -/

/-- Closing a statement whose owner lives. -/
theorem closeStatement_of_owner [Scheduler] {w : Session} {c s : Nat} {statement : Statement}
    (hs : w.statements.get? s = some statement) (howner : w.ownerOf? statement = some c) :
    w.closeStatement s =
      match w.closeAtDriver s with
      | (w', .alreadyClosed) => (w'.unregister c s, .ok ())
      | (w', .closed) => ((w'.unregister c s).emit (.statementClosed c s), .ok ())
      | (w', .failed e) => ((w'.unregister c s).inspect c e, .err (.driver e))
      | (w', .panicked label) => (w', .panicked label) := by
  obtain ⟨rfl, -⟩ := ownerOf?_eq_some_iff.1 howner
  have hclosed : (w.closeAtDriver s).1.ownerOf? statement = some statement.connection := by
    rw [← howner]
    exact ownerOf?_congr (connectionLives_closeAtDriver w s _)
  have huntracked : ((w.closeAtDriver s).1.unregister statement.connection s).ownerOf? statement =
      some statement.connection := by
    rw [← hclosed]
    exact ownerOf?_congr (connectionLives_untrack (w.closeAtDriver s).1 _ s _)
  unfold closeStatement inspectFor
  rw [hs]
  dsimp only
  generalize w.closeAtDriver s = closed at hclosed huntracked ⊢
  obtain ⟨w', _ | _ | e | label⟩ := closed
  all_goals simp only [hclosed, huntracked]

/-- `w'` is `u` without the statement `s` on the list of the connection `c`. -/
structure TakenOff (u : Session) (c s : Nat) (w' : Session) : Prop where
  statements : w'.statements = u.statements
  journals : w'.journals = u.journals
  connections : w'.connections = u.connections.modify c fun conn =>
    { conn with tracked := (conn.tracked.unregister s).1 }
  watch : w'.watch = u.watch
  pools : w'.pools = u.pools

theorem takenOff_unregister {u : Session} {c : Nat} {conn : Connection}
    (hc : u.connections.get? c = some conn) (ho : conn.closed = false) (s : Nat) (e : LogEvent) :
    TakenOff u c s ((u.unregister c s).emit e) where
  statements := by simp
  journals := by simp
  connections := by
    rw [(emit_fields _ e).2.2.2.1, unregister_connections]
    exact Roster.modify_congr_of_some hc (by simp [ho])
  watch := by simp
  pools := by simp

/-- Whether the failure is looked at before or after the statement is taken off the list makes no
difference. -/
theorem takenOff_inspect {u : Session} {c : Nat} {conn : Connection}
    (hc : u.connections.get? c = some conn) (ho : conn.closed = false) (s : Nat)
    (e : DriverError) :
    TakenOff (u.noteFailure c s e) c s ((u.unregister c s).inspect c e) where
  statements := by simp
  journals := by simp
  connections := by
    rw [inspect_connections, unregister_connections, noteFailure_connections,
      Roster.modify_modify, Roster.modify_modify]
    exact Roster.modify_congr_of_some hc (by simp [ho])
  watch := by simp
  pools := by simp

/-- Closing one open statement of an open connection is one step of a sweep, and the statement is
taken off the list. -/
theorem closedOne_closeStatement [Scheduler] {w : Session} {c s : Nat} {conn : Connection}
    (h : TracksOwn w c conn) (hs : s ∈ w.openIds c) (hcalm : w.panicsOnClose s = false) :
    (w.closeStatement s).2 = w.closeAnswer s ∧
      ∃ u, ClosedOne w c s u ∧ TakenOff u c s (w.closeStatement s).1 := by
  obtain ⟨statement, hget, hown, hclosed⟩ := h.own s hs
  have howner : w.ownerOf? statement = some c := ownerOf?_eq_some_iff.2 ⟨hown, h.lives⟩
  have hopen : w.isOpenStatement s = true := by rw [isOpenStatement_eq hget, hclosed]; rfl
  have hconn : (w.closeAtDriver s).1.connections.get? c = some conn := by
    rw [(closeAtDriver_fields w s).2.2.1, h.found]
  have hsnd := closeAtDriver_snd hopen
  have hsplit : w.closeAtDriver s = ((w.closeAtDriver s).1, (w.closeAtDriver s).2) := rfl
  rw [closeStatement_of_owner hget howner, hsplit, hsnd]
  unfold closeAnswer closeError?
  cases hf : w.closeFault? s with
  | none =>
    exact ⟨rfl, _, closedOne_of_closed c hopen hf, takenOff_unregister hconn h.isOpen s _⟩
  | some fault =>
    cases fault with
    | failed e =>
      exact ⟨rfl, _, closedOne_of_failed c hopen hf, takenOff_inspect hconn h.isOpen s e⟩
    | panicked label =>
      unfold panicsOnClose at hcalm
      rw [hf] at hcalm
      cases hcalm

/-! ## What is left for the sweep -/

/-- The record of a connection when its statement `s` has been closed by hand. -/
def oneLess (w : Session) (s : Nat) (conn : Connection) : Connection :=
  { conn with
    tracked := (conn.tracked.unregister s).1
    broken := conn.broken || breaks conn ((w.closeError? s).map (s, ·)).toList }

section OneLess

variable {w u w' : Session} {c s : Nat} {conn : Connection} {l : List Nat}
variable (hone : ClosedOne w c s u) (hoff : TakenOff u c s w')
include hone hoff

theorem sameScript_oneLess : SameScript w w' where
  drivers := by
    rw [(SameScript.of_eq hoff.statements hoff.journals).drivers, hone.sameScript.drivers]
  faults := fun j => by
    rw [(SameScript.of_eq hoff.statements hoff.journals).faults, hone.sameScript.faults]

theorem get?_oneLess (hc : w.connections.get? c = some conn) :
    w'.connections.get? c = some (w.oneLess s conn) := by
  rw [hoff.connections, hone.connections, Roster.modify_modify, Roster.get?_modify_self, hc]
  rfl

theorem closeOrder_oneLess (hc : w.connections.get? c = some conn) (honce : (w.openIds c).Nodup)
    (horder : w.closeOrder c = s :: l) : w'.closeOrder c = l := by
  have hids : w.openIds c = l.reverse ++ [s] := by
    rw [← List.reverse_reverse (w.openIds c), ← List.reverse_cons]
    exact congrArg List.reverse horder
  have hnot : s ∉ l.reverse := by
    rw [hids, List.nodup_append] at honce
    exact fun hmem => honce.2.2 s hmem s (List.mem_singleton_self s) rfl
  have htracked : conn.tracked.ids.Nodup := by rwa [← openIds_eq hc]
  have hfewer : (w.oneLess s conn).tracked.ids = conn.tracked.ids.filter (· != s) :=
    Registry.ids_unregister _ s htracked
  unfold closeOrder
  rw [openIds_eq (get?_oneLess hone hoff hc), hfewer, ← openIds_eq hc, hids, List.filter_append,
    List.filter_eq_self.2, List.filter_cons_of_neg]
  · simp
  · simp
  · intro t ht
    have hne : t ≠ s := fun e => hnot (e ▸ ht)
    simpa using hne

theorem brokenAfterClose_oneLess (conn : Connection) (horder : w.closeOrder c = s :: l)
    (hrest : w'.closeOrder c = l) :
    w'.brokenAfterClose c (w.oneLess s conn) = w.brokenAfterClose c conn := by
  unfold brokenAfterClose
  rw [horder, hrest, hone.failures_cons, failures_congr hoff.statements hoff.journals]
  unfold oneLess breaks
  rw [List.any_append, Bool.or_assoc]

/-- Closing the connection now comes to what closing it before would have come to. -/
theorem closedDown_oneLess (hc : w.connections.get? c = some conn)
    (horder : w.closeOrder c = s :: l) (hrest : w'.closeOrder c = l) {r : Session}
    (hdown : ClosedDown w' c (w.oneLess s conn) r) : ClosedDown w c conn r := by
  have hconns : w'.connections = w.connections.modify c fun _ => w.oneLess s conn := by
    rw [hoff.connections, hone.connections, Roster.modify_modify]
    exact Roster.modify_congr_of_some hc rfl
  refine ClosedDown.of_relisted hc hconns (by rw [hoff.watch, hone.watch])
    (by rw [hoff.pools, hone.pools]) (brokenAfterClose_oneLess hone hoff conn horder hrest) hdown
    ?_ ?_
  · intro t
    rw [hdown.statements, hrest, horder, hone.reached_cons,
      reached_congr hoff.statements hoff.journals, hoff.statements, hone.statements,
      Roster.get?_modify]
    by_cases ht : t = s
    · subst ht
      cases w.statements.get? t <;> simp
    · cases w.statements.get? t <;> simp [ht]
  · intro j
    rw [hdown.journals, hrest, horder, hone.completed_cons,
      completed_congr hoff.statements hoff.journals, hoff.journals, hone.journals,
      (sameScript_oneLess hone hoff).closeEventIn?, List.filterMap_cons]
    cases w.journals.get? j with
    | none => rfl
    | some journal => cases w.closeEventIn? j s <;> simp

end OneLess

/-- `w'` is `w` after some statements of the connection `c` were closed by hand: the connection
still tracks those in `rest`, newest first, and closing it comes to what it would have come to. -/
structure Shortened (w : Session) (c : Nat) (conn : Connection) (rest : List Nat) (w' : Session) :
    Prop where
  tracks : ∃ conn', TracksOwn w' c conn' ∧ ∀ r, ClosedDown w' c conn' r → ClosedDown w c conn r
  order : w'.closeOrder c = rest
  script : SameScript w w'
  pools : w'.pools = w.pools

theorem connectionLives_oneLess {w u w' : Session} {c s : Nat} {conn : Connection}
    (hone : ClosedOne w c s u) (hoff : TakenOff u c s w')
    (hc : w.connections.get? c = some conn) : w'.connectionLives c = w.connectionLives c := by
  refine connectionLives_congr (by rw [hoff.pools, hone.pools]) ?_
  rw [get?_oneLess hone hoff hc, hc]
  rfl

theorem shortened_closeStatement [Scheduler] {w : Session} {c s : Nat} {conn : Connection}
    {l : List Nat} (h : TracksOwn w c conn) (horder : w.closeOrder c = s :: l)
    (hcalm : w.panicsOnClose s = false) :
    (w.closeStatement s).2 = w.closeAnswer s ∧ Shortened w c conn l (w.closeStatement s).1 := by
  have hmem : ∀ t, t ∈ w.openIds c ↔ t ∈ s :: l := by
    intro t
    rw [← horder, closeOrder, List.mem_reverse]
  have hnodup : (s :: l).Nodup := by
    rw [← horder]
    exact List.nodup_reverse.2 h.once
  obtain ⟨hanswer, u, hone, hoff⟩ :=
    closedOne_closeStatement h ((hmem s).2 (List.mem_cons_self ..)) hcalm
  have hrest := closeOrder_oneLess hone hoff h.found h.once horder
  have hids : (w.closeStatement s).1.openIds c = l.reverse := by
    rw [← hrest, closeOrder, List.reverse_reverse]
  refine ⟨hanswer, ?_, hrest, sameScript_oneLess hone hoff, by rw [hoff.pools, hone.pools]⟩
  refine ⟨_, ?_, fun r => closedDown_oneLess hone hoff h.found horder hrest⟩
  refine
    { found := get?_oneLess hone hoff h.found
      isOpen := h.isOpen
      lives := by rw [connectionLives_oneLess hone hoff h.found, h.lives]
      once := by rw [hids]; exact List.nodup_reverse.2 (List.nodup_cons.1 hnodup).2
      own := ?_ }
  intro t ht
  rw [hids, List.mem_reverse] at ht
  have hne : t ≠ s := fun e => (List.nodup_cons.1 hnodup).1 (e ▸ ht)
  obtain ⟨statement, hget, hown⟩ := h.own t ((hmem t).2 (List.mem_cons_of_mem s ht))
  refine ⟨statement, ?_, hown⟩
  rw [hoff.statements, hone.statements, Roster.get?_modify_of_ne _ _ hne, hget]

namespace Shortened

variable {w w₁ w' : Session} {c : Nat} {conn : Connection} {rest : List Nat}

theorem refl (h : TracksOwn w c conn) : Shortened w c conn (w.closeOrder c) w :=
  ⟨⟨conn, h, fun _ hr => hr⟩, rfl, ⟨rfl, fun _ => rfl⟩, rfl⟩

/-- What is closed by hand later shortens the list further. -/
theorem trans {conn₁ : Connection} (hpools : w₁.pools = w.pools) (hscript : SameScript w w₁)
    (hdown : ∀ r, ClosedDown w₁ c conn₁ r → ClosedDown w c conn r)
    (h : Shortened w₁ c conn₁ rest w') : Shortened w c conn rest w' := by
  obtain ⟨conn', htracks, hclose⟩ := h.tracks
  have hboth : SameScript w w' :=
    ⟨h.script.drivers.trans hscript.drivers,
      fun j => (h.script.faults j).trans (hscript.faults j)⟩
  exact ⟨⟨conn', htracks, fun r hr => hdown r (hclose r hr)⟩, h.order, hboth,
    h.pools.trans hpools⟩

end Shortened

theorem SameScript.closeAnswer {w w' : Session} (h : SameScript w w') :
    w'.closeAnswer = w.closeAnswer := by
  funext s
  unfold Session.closeAnswer
  rw [h.closeError?]

/-- Closing the newest statements by hand, newest first. -/
theorem shortened_closeEach [Scheduler] {w : Session} {c : Nat} {conn : Connection}
    {newest rest : List Nat} (h : TracksOwn w c conn) (horder : w.closeOrder c = newest ++ rest)
    (hcalm : ∀ s ∈ newest, w.panicsOnClose s = false) :
    (w.closeEach newest).2 = newest.map w.closeAnswer ∧
      Shortened w c conn rest (w.closeEach newest).1 := by
  induction newest generalizing w conn with
  | nil =>
    have hall := Shortened.refl h
    rw [horder] at hall
    exact ⟨rfl, hall⟩
  | cons s newest ih =>
    -- closing `s` leaves a session of the same kind, with the rest of the list still to close
    obtain ⟨hanswer, hshort⟩ :=
      shortened_closeStatement h horder (hcalm s (List.mem_cons_self ..))
    obtain ⟨conn₁, htracks, hdown⟩ := hshort.tracks
    have hcalm₁ : ∀ t ∈ newest, (w.closeStatement s).1.panicsOnClose t = false := by
      intro t ht
      rw [hshort.script.panicsOnClose]
      exact hcalm t (List.mem_cons_of_mem s ht)
    obtain ⟨hanswers, hrest⟩ := ih htracks hshort.order hcalm₁
    refine ⟨?_, hrest.trans hshort.pools hshort.script hdown⟩
    show (w.closeStatement s).2 :: ((w.closeStatement s).1.closeEach newest).2 = _
    rw [hanswer, hanswers, hshort.script.closeAnswer]
    rfl

/-! ## The law -/

/-- A connection that tracks open statements of its own attempts to close each of them. -/
theorem TracksOwn.attempts_eq {w : Session} {c : Nat} {conn : Connection}
    (h : TracksOwn w c conn) : w.attempts c = w.closeOrder c := by
  have hnodup : (w.closeOrder c).Nodup := List.nodup_reverse.2 h.once
  unfold attempts
  rw [due_of_nodup w hnodup, List.filter_eq_self]
  intro s hs
  obtain ⟨statement, hget, -, hclosed⟩ := h.own s (List.mem_reverse.1 hs)
  rw [isOpenStatement_eq hget, hclosed]
  rfl

/-- Closing the `k` newest statements of the connection `c` one by one and then the connection,
against closing the connection alone. -/
structure AsSwept (w : Session) (c : Nat) (conn : Connection) (k : Nat)
    (each : Session × List (Outcome Unit)) : Prop where
  /-- Both ways lead to the same session but for the log. -/
  session : ∃ log, (each.1.close c).1 = { (w.close c).1 with log }
  drained : (each.1.close c).1.openIds c = []
  /-- No pool hears anything before the connection is closed, … -/
  waiting : each.1.pools = w.pools
  /-- … and then its owner gets one release. -/
  release : ∀ pool, w.pools.get? conn.owner = some pool → pool.held = true →
    ((each.1.close c).1.pools.get? conn.owner).map (·.releases) = some (pool.releases ++
      [{ connection := c, broken := w.brokenAfterClose c conn, openStatements := 0
         leak := w.phaseAfterClose c }])
  /-- A failure is returned by the close of its statement, … -/
  answers : each.2 = ((w.closeOrder c).take k).map fun s =>
    match w.closeError? s with
    | none => .ok ()
    | some e => .err (.driver e)
  /-- … and the first one among the others by the close of the connection. -/
  outcome : (each.1.close c).2 =
    match (((w.closeOrder c).drop k).filterMap fun s => (w.closeError? s).map (s, ·)).head? with
    | none => .ok ()
    | some (s, e) => .err (.cleanup c s e)

theorem one_by_one_as_swept [Scheduler] {w : Session} {c : Nat} {conn : Connection}
    (tracks : TracksOwn w c conn) (calm : ∀ s ∈ w.openIds c, w.panicsOnClose s = false)
    (k : Nat) : AsSwept w c conn k (w.closeEach ((w.closeOrder c).take k)) := by
  have hcalm : ∀ s ∈ w.closeOrder c, w.panicsOnClose s = false :=
    fun s hs => calm s (List.mem_reverse.1 hs)
  obtain ⟨hanswers, hshort⟩ := shortened_closeEach tracks (List.take_append_drop k _).symm
    fun s hs => hcalm s (List.mem_of_mem_take hs)
  generalize w.closeEach ((w.closeOrder c).take k) = each at hanswers hshort ⊢
  obtain ⟨conn', htracks, hdown⟩ := hshort.tracks
  obtain ⟨hclosed, hresult⟩ := closedDown_close htracks.found htracks.isOpen
  have hboth : ClosedDown w c conn (each.1.close c).1 := hdown _ hclosed
  have halone : ClosedDown w c conn (w.close c).1 := (closedDown_close tracks.found tracks.isOpen).1
  have hcalm' : ∀ s ∈ each.1.attempts c, each.1.panicsOnClose s = false := by
    intro s hs
    rw [htracks.attempts_eq, hshort.order] at hs
    rw [hshort.script.panicsOnClose]
    exact hcalm s (List.mem_of_mem_drop hs)
  have hfailures : each.1.failures (each.1.closeOrder c) =
      ((w.closeOrder c).drop k).filterMap fun s => (w.closeError? s).map (s, ·) := by
    have hdue : each.1.due (each.1.closeOrder c) = each.1.attempts c := rfl
    rw [failures_of_calm hcalm', hdue, htracks.attempts_eq, hshort.order, hshort.script.closeError?]
  refine
    { session := ⟨_, hboth.eq_but_log halone⟩
      drained := ?_
      waiting := hshort.pools
      release := ?_
      answers := hanswers
      outcome := ?_ }
  · rw [openIds_eq (hboth.connection tracks.found)]
    rfl
  · intro pool hp hheld
    rw [hboth.owner hp hheld, Option.map_some, Pool.releases_receive]
    rfl
  · rw [hresult, sweepResult_of_calm hcalm', hfailures]
    rcases (((w.closeOrder c).drop k).filterMap fun s => (w.closeError? s).map (s, ·)).head? with
      _ | ⟨s, e⟩ <;> rfl

section

attribute [local instance] Scheduler.exact

/-- Connection 1 tracks three statements of its own; closing the first fails, and closing the
second breaks the connection. -/
def threeOpen : Session :=
  run {}
    [.newPool .recycling, .pool 0 (.connect none),
      .connection 1 (.openStatement (.prepare "A" {})),
      .connection 1 (.openStatement (.prepare "B" {})),
      .connection 1 (.openStatement (.prepareCall "C" none)),
      .script 1 (.failClose "A" { message := "busy" }),
      .script 1 (.failClose "B" { message := "gone", sqlState := some ⟨"08006"⟩ })]

theorem one_by_one_threeOpen : ∃ conn,
    TracksOwn threeOpen 1 conn ∧ (∀ s ∈ threeOpen.openIds 1, threeOpen.panicsOnClose s = false) ∧
      threeOpen.closeOrder 1 = [3, 2, 1] ∧
      AsSwept threeOpen 1 conn 2 (threeOpen.closeEach ((threeOpen.closeOrder 1).take 2)) := by
  have hids : threeOpen.openIds 1 = [1, 2, 3] := by decide
  have hown : ∀ s ∈ threeOpen.openIds 1, threeOpen.OpenThrough 1 s := by
    rw [hids]
    simp only [List.forall_mem_cons, List.not_mem_nil, false_imp_iff, implies_true, and_true]
    exact ⟨⟨_, rfl, rfl, rfl⟩, ⟨_, rfl, rfl, rfl⟩, ⟨_, rfl, rfl, rfl⟩⟩
  have htracks : TracksOwn threeOpen 1 _ := ⟨rfl, rfl, by decide, by decide, hown⟩
  have hcalm : ∀ s ∈ threeOpen.openIds 1, threeOpen.panicsOnClose s = false := by decide
  exact ⟨_, htracks, hcalm, by decide, one_by_one_as_swept htracks hcalm 2⟩

end

end ConnLease.Session
