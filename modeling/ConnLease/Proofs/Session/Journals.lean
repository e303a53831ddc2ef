import ConnLease.Proofs.Session.Effects

/-!
# What a move writes to the journals

Connections share journals in any way, and a call on one of them writes to the journal of its link.
A move adds events at the end of a journal and leaves those that are there. The labels whose close
panics come from the script alone.
-/

namespace ConnLease

/-! ## Calls on a link -/

namespace Driver.Wire

/-- The events that a call leaves which opens a statement. -/
def opening (w : Wire) (call : OpenCall) : List Event :=
  if w.journal.nextError.isNone then [call.event (call.label w.link)] else []

/-- The events that another call leaves. -/
def performing (w : Wire) (call : PlainCall) : List Event :=
  if w.journal.nextError.isNone then call.event?.toList else []

theorem openStatement_fields (w : Wire) (call : OpenCall) :
    (w.openStatement call).1.link.journal = w.link.journal ∧
      (w.openStatement call).1.journal.events = w.journal.events ++ w.opening call ∧
      (w.openStatement call).1.journal.panics = w.journal.panics := by
  unfold openStatement opening Journal.takeNextError
  cases he : w.journal.nextError with
  | none => exact ⟨rfl, rfl, rfl⟩
  | some e => exact ⟨rfl, (List.append_nil _).symm, rfl⟩

theorem perform_fields (w : Wire) (call : PlainCall) :
    (w.perform call).1.link.journal = w.link.journal ∧
      (w.perform call).1.journal.events = w.journal.events ++ w.performing call ∧
      (w.perform call).1.journal.panics = w.journal.panics := by
  unfold perform performing Journal.takeNextError
  cases he : w.journal.nextError with
  | none => cases call <;> simp [PlainCall.event?, Journal.record]
  | some e => exact ⟨rfl, (List.append_nil _).symm, rfl⟩

end Driver.Wire

namespace Session

/-! ## One journal -/

/-- What becomes of the journal with number `j` when a call is made on the link of the connection
`c`. -/
def calledJournal (w : Session) (c j : Nat) (journal : Driver.Journal)
    (call : Driver.Wire → Driver.Wire) : Driver.Journal :=
  match (w.connections.get? c).filter (·.link.journal == j) with
  | some conn => (call ⟨conn.link, journal⟩).journal
  | none => journal

/-- The journal with number `j` after a move. -/
def changedJournal (w : Session) (m : Move) (j : Nat) (journal : Driver.Journal) :
    Driver.Journal :=
  match m with
  | .callOpen c call => w.calledJournal c j journal fun wire => (wire.openStatement call).1
  | .callPlain c call => w.calledJournal c j journal fun wire => (wire.perform call).1
  | .closeAtDriver s =>
    if w.isOpenStatement s then
      { journal with events := journal.events ++ (w.closeEventIn? j s).toList }
    else journal
  | .close c =>
    if w.isClosed c then journal
    else
      { journal with
        events := journal.events ++
          (w.completed (w.closeOrder c)).filterMap (w.closeEventIn? j) }
  | .script k line => if k = j then line.apply journal else journal
  | _ => journal

/-- The journal that a move makes. -/
def Move.newJournal? : Move → Option Driver.Journal
  | .create _ _ none _ => some {}
  | _ => none

theorem get?_journals_call {w : Session} {c : Nat} {conn : Connection}
    (hc : w.connections.get? c = some conn) {call : Driver.Wire → Driver.Wire}
    (hlink : ∀ wire : Driver.Wire, (call wire).link.journal = wire.link.journal) (j : Nat) :
    (w.setWire c (call (w.wire conn))).journals.get? j =
      (w.journals.get? j).map fun journal => w.calledJournal c j journal call := by
  have hnumber : (call (w.wire conn)).link.journal = conn.link.journal := hlink _
  unfold setWire
  simp only [onJournal_fields, onConnection_fields, Roster.get?_modify, hnumber]
  cases hj : w.journals.get? j with
  | none => simp
  | some journal =>
    by_cases hsame : j = conn.link.journal
    · have hwire : w.wire conn = ⟨conn.link, journal⟩ := by
        unfold wire
        rw [← hsame, hj]
        rfl
      simp [calledJournal, hc, hsame, hwire, Option.filter_some]
    · have hother : ¬ conn.link.journal = j := fun e => hsame e.symm
      simp [calledJournal, hc, hsame, hother, Option.filter_some]

theorem get?_journals_close (w : Session) (c j : Nat) :
    (w.close c).1.journals.get? j =
      (w.journals.get? j).map (w.changedJournal (.close c) j) := by
  rcases close_cases w c with ⟨hclosed, hsame⟩ | ⟨conn, hc, ho, hdown⟩
  · rw [hsame]
    cases w.journals.get? j <;> simp [changedJournal, hclosed]
  · have hopen : w.isClosed c = false := by rw [isClosed_eq hc, ho]
    rw [hdown.journals]
    cases w.journals.get? j <;> simp [changedJournal, hopen]

theorem get?_journals_closeAtDriver (w : Session) (s j : Nat) :
    (w.closeAtDriver s).1.journals.get? j =
      (w.journals.get? j).map (w.changedJournal (.closeAtDriver s) j) := by
  cases ho : w.isOpenStatement s with
  | false =>
    rw [closeAtDriver_of_not_open ho]
    cases w.journals.get? j <;> simp [changedJournal, ho]
  | true =>
    rw [closeAtDriver_journals ho]
    cases w.journals.get? j <;> simp [changedJournal, ho]

/-- Moves that leave the journals alone. -/
def Move.keepsJournals : Move → Bool
  | .create _ _ none _ | .callOpen _ _ | .callPlain _ _ | .closeAtDriver _ | .close _
  | .script _ _ => false
  | _ => true

theorem journals_move_of_kept [Scheduler] {w : Session} {m : Move} (hm : m.keepsJournals = true) :
    (w.move m).journals = w.journals := by
  cases m with
  | create p config journal held =>
    cases journal with
    | none => cases hm
    | some j => rfl
  | callOpen c call | callPlain c call | closeAtDriver s | close c | script j line => cases hm
  | evict p => exact (evict_fields w p).2.1
  | revive c => exact (revive_fields w c).1
  | arm c threshold timer =>
    simp only [move]
    cases ha : w.arm c threshold timer with
    | error e => rfl
    | ok w' =>
      obtain ⟨conn, watch, detector, -, -, -, rfl⟩ := arm_eq_ok_iff.1 ha
      rfl
  | markBroken c => exact (markBroken_fields w c).2.1
  | inspect c e => exact (inspect_fields w c e).2.1
  | register c s => exact (register_fields w c s).2.1
  | unregister c s => exact (unregister_fields w c s).2.1
  | untrack c s => exact (unregister_fields w c s).2.1
  | adopt c call driver => exact (adopt_fields w c call driver).2.1
  | _ => rfl

theorem get?_journals_move_of_kept [Scheduler] {w : Session} {m : Move}
    (hm : m.keepsJournals = true) (j : Nat) :
    (w.move m).journals.get? j = (w.journals.get? j).map (w.changedJournal m j) := by
  have hid : ∀ journal, w.changedJournal m j journal = journal := by
    intro journal
    cases m with
    | callOpen c call | callPlain c call | closeAtDriver s | close c | script k line => cases hm
    | _ => rfl
  rw [journals_move_of_kept hm]
  cases w.journals.get? j <;> simp [hid]

theorem get?_journals_move_of_none [Scheduler] (w : Session) {m : Move} (hm : m.newJournal? = none)
    (j : Nat) : (w.move m).journals.get? j = (w.journals.get? j).map (w.changedJournal m j) := by
  cases m with
  | create p config journal held =>
    cases journal with
    | none => cases hm
    | some k => exact get?_journals_move_of_kept (by rfl) j
  | callOpen c call =>
    simp only [move]
    cases hc : w.connections.get? c with
    | none => cases w.journals.get? j <;> simp [changedJournal, calledJournal, hc]
    | some conn =>
      exact get?_journals_call hc (fun wire => (wire.openStatement_fields call).1) j
  | callPlain c call =>
    simp only [move]
    cases hc : w.connections.get? c with
    | none => cases w.journals.get? j <;> simp [changedJournal, calledJournal, hc]
    | some conn => exact get?_journals_call hc (fun wire => (wire.perform_fields call).1) j
  | closeAtDriver s => exact get?_journals_closeAtDriver w s j
  | close c => exact get?_journals_close w c j
  | script k line =>
    simp only [move, onJournal_fields, Roster.get?_modify]
    by_cases hk : j = k
    · subst hk
      cases w.journals.get? j <;> simp [changedJournal]
    · have hother : ¬ k = j := fun e => hk e.symm
      cases w.journals.get? j <;> simp [changedJournal, hk, hother]
  | _ => exact get?_journals_move_of_kept (by rfl) j

theorem get?_journals_move [Scheduler] (w : Session) (m : Move) (j : Nat) :
    (w.move m).journals.get? j =
      if j = w.journals.next then m.newJournal?
      else (w.journals.get? j).map (w.changedJournal m j) := by
  cases hm : m.newJournal? with
  | none =>
    rw [get?_journals_move_of_none w hm]
    split
    · rename_i hj
      rw [hj, Roster.get?_next]
      rfl
    · rfl
  | some journal =>
    cases m with
    | create p config shared held =>
      cases shared with
      | some k => cases hm
      | none =>
        cases hm
        show (w.journals.push {}).get? j = _
        rw [Roster.get?_push]
        split
        · rfl
        · cases w.journals.get? j <;> rfl
    | _ => cases hm

/-- Journals keep their numbers. -/
theorem isSome_journals_move [Scheduler] {w : Session} {j : Nat}
    (h : (w.journals.get? j).isSome = true)
    (m : Move) : ((w.move m).journals.get? j).isSome = true := by
  obtain ⟨journal, hj⟩ := Option.isSome_iff_exists.1 h
  have hold : j ≠ w.journals.next := Roster.ne_next_of_get? hj
  rw [get?_journals_move, if_neg hold, Option.isSome_map, h]

/-- The link of every connection writes to a journal that is there. -/
def Linked (w : Session) : Prop :=
  ∀ c conn, w.connections.get? c = some conn → (w.journals.get? conn.link.journal).isSome = true

theorem changed_linkJournal [Scheduler] (w : Session) (m : Move) (conn : Connection) :
    (w.changed m conn).link.journal = conn.link.journal := by
  cases m with
  | callOpen c call => exact ((w.wire conn).openStatement_fields call).1
  | callPlain c call => exact ((w.wire conn).perform_fields call).1
  | close c => simp only [changed]; split <;> rfl
  | arm c threshold timer | register c s | unregister c s | untrack c s | adopt c call driver =>
    exact changed_of_keepsBooks (P := (·.link.journal = conn.link.journal)) (by rfl)
      fun _ _ => rfl
  | _ => rfl

theorem linked_move [Scheduler] {w : Session} (hw : w.Linked) {op : Op} {m : Move}
    (hm : w.Ensured op m) : (w.move m).Linked := by
  intro c conn' hc'
  rw [get?_connections_move] at hc'
  split at hc'
  · obtain ⟨conn, hc, rfl⟩ := Option.map_eq_some_iff.1 hc'
    rw [changed_linkJournal]
    exact isSome_journals_move (hw c conn hc) m
  · split at hc'
    · cases m with
      | create p config journal held =>
        cases hc'
        cases journal with
        | none =>
          have hget := get?_journals_move w (.create p config none held) w.journals.next
          rw [if_pos rfl] at hget
          show ((w.move (.create p config none held)).journals.get? w.journals.next).isSome = true
          rw [hget]
          rfl
        | some j =>
          obtain ⟨d, conn, hd, rfl⟩ := hm j rfl
          exact isSome_journals_move (hw d conn hd) _
      | _ => cases hc'
    · exact isSome_journals_move (hw c conn' hc') m

theorem linked_run [Scheduler] {w : Session} (hw : w.Linked) (ops : List Op) : (w.run ops).Linked :=
  Preserved.run (fun _ _ _ hu hm => linked_move hu hm) hw ops

/-! ## Events -/

/-- The events of the journal with number `j`. -/
def eventsOf (w : Session) (j : Nat) : List Driver.Event :=
  ((w.journals.get? j).map (·.events)).getD []

/-- The events that a call on the link of the connection `c` adds to the journal with number `j`. -/
def calledEvents (w : Session) (c j : Nat) (journal : Driver.Journal)
    (events : Driver.Wire → List Driver.Event) : List Driver.Event :=
  match (w.connections.get? c).filter (·.link.journal == j) with
  | some conn => events ⟨conn.link, journal⟩
  | none => []

/-- The events that a move adds to a journal with number `j`. -/
def addedEvents (w : Session) (m : Move) (j : Nat) (journal : Driver.Journal) :
    List Driver.Event :=
  match m with
  | .callOpen c call => w.calledEvents c j journal fun wire => wire.opening call
  | .callPlain c call => w.calledEvents c j journal fun wire => wire.performing call
  | .closeAtDriver s => if w.isOpenStatement s then (w.closeEventIn? j s).toList else []
  | .close c =>
    if w.isClosed c then []
    else (w.completed (w.closeOrder c)).filterMap (w.closeEventIn? j)
  | _ => []

/-- The events that a move adds to the journal with number `j`, if there is one. -/
def recorded (w : Session) (m : Move) (j : Nat) : List Driver.Event :=
  ((w.journals.get? j).map (w.addedEvents m j)).getD []

theorem calledJournal_events {w : Session} {c j : Nat} {journal : Driver.Journal}
    {call : Driver.Wire → Driver.Wire} {events : Driver.Wire → List Driver.Event}
    (h : ∀ wire, (call wire).journal.events = wire.journal.events ++ events wire) :
    (w.calledJournal c j journal call).events =
      journal.events ++ w.calledEvents c j journal events := by
  unfold calledJournal calledEvents
  cases (w.connections.get? c).filter (·.link.journal == j) with
  | none => exact (List.append_nil _).symm
  | some conn => exact h _

theorem changedJournal_events (w : Session) (m : Move) (j : Nat) (journal : Driver.Journal) :
    (w.changedJournal m j journal).events = journal.events ++ w.addedEvents m j journal := by
  cases m with
  | callOpen c call => exact calledJournal_events fun wire => (wire.openStatement_fields call).2.1
  | callPlain c call => exact calledJournal_events fun wire => (wire.perform_fields call).2.1
  | closeAtDriver s =>
    simp only [changedJournal, addedEvents]
    split
    · rfl
    · exact (List.append_nil _).symm
  | close c =>
    simp only [changedJournal, addedEvents]
    split
    · exact (List.append_nil _).symm
    · rfl
  | script k line =>
    have hline : (line.apply journal).events = journal.events := by cases line <;> rfl
    simp only [changedJournal, addedEvents, List.append_nil]
    split
    · exact hline
    · rfl
  | _ => exact (List.append_nil _).symm

/-- A move adds events to a journal at its end. -/
theorem eventsOf_move [Scheduler] (w : Session) (m : Move) (j : Nat) :
    (w.move m).eventsOf j = w.eventsOf j ++ w.recorded m j := by
  have hnew : ∀ journal, m.newJournal? = some journal → journal.events = [] := by
    intro journal h
    unfold Move.newJournal? at h
    split at h
    · cases h; rfl
    · cases h
  unfold eventsOf recorded
  rw [get?_journals_move]
  split
  · rename_i hj
    rw [hj, Roster.get?_next]
    cases hm : m.newJournal? with
    | none => rfl
    | some journal => exact hnew journal hm
  · cases w.journals.get? j with
    | none => rfl
    | some journal => exact changedJournal_events w m j journal

/-! ## Scripted panics -/

/-- No close is scripted to panic. -/
def Calm (w : Session) : Prop :=
  ∀ j journal, w.journals.get? j = some journal → journal.panics = []

theorem changedJournal_panics {w : Session} {m : Move} {j : Nat} {journal : Driver.Journal}
    (hm : ∀ k label, m ≠ .script k (.panicOnClose label)) :
    (w.changedJournal m j journal).panics = journal.panics := by
  have hcalled : ∀ (c : Nat) (call : Driver.Wire → Driver.Wire),
      (∀ wire, (call wire).journal.panics = wire.journal.panics) →
        (w.calledJournal c j journal call).panics = journal.panics := by
    intro c call h
    unfold calledJournal
    split
    · exact h _
    · rfl
  cases m with
  | callOpen c call => exact hcalled c _ fun wire => (wire.openStatement_fields call).2.2
  | callPlain c call => exact hcalled c _ fun wire => (wire.perform_fields call).2.2
  | closeAtDriver s => simp only [changedJournal]; split <;> rfl
  | close c => simp only [changedJournal]; split <;> rfl
  | script k line =>
    cases line with
    | panicOnClose label => exact absurd rfl (hm k label)
    | failNext e => simp only [changedJournal]; split <;> rfl
    | failClose label e => simp only [changedJournal]; split <;> rfl
  | _ => rfl

theorem calm_move [Scheduler] {w : Session} {m : Move} (hw : w.Calm)
    (hm : ∀ k label, m ≠ .script k (.panicOnClose label)) : (w.move m).Calm := by
  intro j journal hj
  rw [get?_journals_move] at hj
  split at hj
  · unfold Move.newJournal? at hj
    split at hj
    · cases hj; rfl
    · cases hj
  · obtain ⟨old, hold, rfl⟩ := Option.map_eq_some_iff.1 hj
    rw [changedJournal_panics hm, hw j old hold]

theorem Calm.panicsOnClose {w : Session} (hw : w.Calm) (s : Nat) : w.panicsOnClose s = false := by
  have hjournal : ∀ j, ((w.journals.get? j).getD {}).panics = [] := by
    intro j
    cases hj : w.journals.get? j with
    | none => rfl
    | some journal => exact hw j journal hj
  unfold Session.panicsOnClose closeFault?
  cases w.driverOf? s with
  | none => rfl
  | some d =>
    have hfault : ((w.journals.get? d.journal).getD {}).closeFault? d.label =
        (((w.journals.get? d.journal).getD {}).closeError? d.label).map .failed := by
      unfold Driver.Journal.closeFault?
      rw [hjournal]
      rfl
    simp only [Option.bind_some, hfault]
    cases ((w.journals.get? d.journal).getD {}).closeError? d.label <;> rfl

end Session

end ConnLease
