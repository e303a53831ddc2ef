import Mathlib.Data.List.Induction
import ConnLease.Proofs.Session.JournalBalance
import ConnLease.Proofs.Session.PoolBooks

/-!
# What the physical connection notices

Pools lend connections, take them back, hand them on and watch them, and none of that reaches the
physical connection: only a call on the driver changes its mode and its numbering, and only a call
uses up a scripted error. What lifecycle operations leave at the driver are the closes of the
statements that they close, and nothing else. So a connection keeps its mode and its numbering over
any number of borrow cycles, and the driver's connection is closed by callers only.

Main statement: `driver_spared`.
-/

namespace ConnLease

namespace Driver.Wire

/-- A call that opens a statement leaves the link as it is, but for the numbering. -/
theorem openStatement_link (w : Wire) (call : OpenCall) :
    (w.openStatement call).1.link =
      { w.link with
        plainCount :=
          w.link.plainCount + (w.journal.nextError.isNone && call.sql?.isNone).toUInt32 } := by
  unfold openStatement Journal.takeNextError
  cases w.journal.nextError with
  | some e => simp [Bool.toUInt32]
  | none => cases call.sql? <;> simp [Bool.toUInt32]

theorem openStatement_snd (w : Wire) (call : OpenCall) :
    (w.openStatement call).2 =
      match w.journal.nextError with
      | some e => .error e
      | none => .ok ⟨call.label w.link, w.link.journal⟩ := by
  unfold openStatement Journal.takeNextError
  cases w.journal.nextError <;> rfl

/-- A call that opens nothing leaves the link as it is, but for a mode that it sets. -/
theorem perform_link (w : Wire) (call : PlainCall) :
    (w.perform call).1.link =
      match call, w.journal.nextError with
      | .setAutoCommit enabled, none => { w.link with autoCommit := enabled }
      | _, _ => w.link := by
  unfold perform Journal.takeNextError
  cases w.journal.nextError <;> cases call <;> rfl

end Driver.Wire

namespace Session

/-! ## Operations that spare the driver -/

/-- Calls on the driver through a connection, and lines of its script. -/
def Op.callsDriver : Op → Bool
  | .connection _ (.openStatement _) | .connection _ (.perform _) | .script _ _ => true
  | _ => false

/-- Moves that call the driver, other than by closing a statement, or that write its script. -/
def Move.callsDriver : Move → Bool
  | .callOpen _ _ | .callPlain _ _ | .script _ _ => true
  | _ => false

/-- Moves that neither call the driver nor bring a statement of the driver into the session. -/
def Move.sparesDriver (m : Move) : Bool := !m.callsDriver && m.adopted?.isNone

section Moves

variable (w : Session)

theorem lifecycleMoves_spare (c : Nat) (op : LifecycleOp) :
    ∀ m ∈ lifecycleMoves c op, m.sparesDriver = true := by
  cases op <;> simp [lifecycleMoves, Move.sparesDriver, Move.callsDriver, Move.adopted?]

theorem poolMoves_spare [Scheduler] (p : Nat) (pool : Pool) (o : PoolOp) :
    ∀ m ∈ w.poolMoves p pool o, m.sparesDriver = true := by
  cases o with
  | connect share | connectPlain share =>
    simp only [poolMoves, connectMoves]
    split <;> simp [Move.sparesDriver, Move.callsDriver, Move.adopted?]
  | addIdle share =>
    simp only [poolMoves]
    split <;> simp [Move.sparesDriver, Move.callsDriver, Move.adopted?]
  | borrow =>
    simp only [poolMoves]
    unfold borrowMoves
    dsimp only
    repeat' split
    all_goals simp [Move.sparesDriver, Move.callsDriver, Move.adopted?]
  | idle c o =>
    simp only [poolMoves]
    split
    · simp
    · exact lifecycleMoves_spare c o
  | _ => simp [poolMoves, Move.sparesDriver, Move.callsDriver, Move.adopted?]

theorem connectionMoves_spare [Scheduler] {c : Nat} {o : ConnectionOp}
    (ho : (Op.connection c o).callsDriver = false) :
    ∀ m ∈ w.connectionMoves c o, m.sparesDriver = true := by
  cases o with
  | openStatement call | perform call => cases ho
  | closeConcurrently threads =>
    cases threads <;> simp [connectionMoves, Move.sparesDriver, Move.callsDriver, Move.adopted?]
  | reassign p | arm threshold timer | register s =>
    simp only [connectionMoves]
    split <;> simp [Move.sparesDriver, Move.callsDriver, Move.adopted?]
  | lifecycle op => exact lifecycleMoves_spare c op
  | _ => simp [connectionMoves, Move.sparesDriver, Move.callsDriver, Move.adopted?]

theorem moves_spare [Scheduler] {op : Op} (hop : op.callsDriver = false) :
    ∀ m ∈ w.moves op, m.sparesDriver = true := by
  cases op with
  | script c line => cases hop
  | newPool setup =>
    simp only [moves]
    unfold newPoolMoves
    repeat' split
    all_goals simp [Move.sparesDriver, Move.callsDriver, Move.adopted?]
  | pool p o =>
    simp only [moves]
    split
    · simp
    · exact poolMoves_spare w p _ o
  | connection c o =>
    simp only [moves]
    split
    · simp
    · exact connectionMoves_spare w hop
  | statement s o =>
    simp only [moves]
    split
    · simp
    · rename_i statement hheld
      intro m hm
      rcases statementMoves_cases (Option.eq_some_of_filter_eq_some hheld) hm with
        ⟨-, rfl | rfl | rfl⟩ | ⟨e, rfl⟩ <;> rfl
  | _ => simp [moves, Move.sparesDriver, Move.callsDriver, Move.adopted?]

end Moves

/-! ## One move -/

/-- The driver is in `u` as it was in `w`, but that the statements `closed` were closed at it, one
after the other. -/
structure SparesDriver (w : Session) (closed : List Nat) (u : Session) : Prop where
  links : ∀ c conn, w.connections.get? c = some conn →
    ∃ conn', u.connections.get? c = some conn' ∧ conn'.link = conn.link
  journals : ∀ j journal, w.journals.get? j = some journal →
    u.journals.get? j =
      some { journal with
        events := journal.events ++ closed.filterMap (w.closeEventIn? j) }

theorem changed_link [Scheduler] {w : Session} {m : Move} (hm : m.callsDriver = false)
    (conn : Connection) : (w.changed m conn).link = conn.link := by
  cases m with
  | callOpen c call | callPlain c call => cases hm
  | close c => simp only [changed]; split <;> rfl
  | arm c threshold timer | register c s | unregister c s | untrack c s | adopt c call driver =>
    exact changed_of_keepsBooks (P := (·.link = conn.link)) (by rfl) fun _ _ => rfl
  | _ => rfl

/-- The events of a close are those of the statements that the driver is asked to close; the one
whose panic ends a sweep leaves none. -/
theorem addedEvents_of_spared {w : Session} {m : Move} (hm : m.callsDriver = false) (j : Nat)
    (journal : Driver.Journal) :
    w.addedEvents m j journal = (w.asks m).filterMap (w.closeEventIn? j) := by
  cases m with
  | callOpen c call | callPlain c call => cases hm
  | closeAtDriver s =>
    simp only [addedEvents, asks]
    cases ho : w.isOpenStatement s with
    | false =>
      rw [closeAtDriver_of_not_open ho]
      rfl
    | true =>
      have hasked : ¬ (w.closeAtDriver s).2 = .alreadyClosed := by
        rw [closeAtDriver_snd ho]
        split <;> simp
      rw [if_pos rfl, if_neg hasked, List.filterMap_cons]
      cases w.closeEventIn? j s <;> rfl
  | close c =>
    show _ = (w.closeAsks c).filterMap _
    rw [closeAsks_eq]
    simp only [addedEvents]
    split
    · rfl
    · unfold reached unwinding?
      rw [List.filterMap_append]
      cases hs : (w.due (w.closeOrder c)).find? w.panicsOnClose with
      | none => simp
      | some s =>
        have hnone := closeEventIn?_of_panics (List.find?_some hs) j
        simp [hnone]
  | _ => rfl

theorem changedJournal_of_spared {w : Session} {m : Move} (hm : m.callsDriver = false) (j : Nat)
    (journal : Driver.Journal) :
    w.changedJournal m j journal =
      { journal with
        events := journal.events ++ (w.asks m).filterMap (w.closeEventIn? j) } := by
  rw [← addedEvents_of_spared hm j journal]
  cases m with
  | callOpen c call | callPlain c call | script k line => cases hm
  | closeAtDriver s | close c =>
    simp only [changedJournal, addedEvents]
    split <;> simp
  | _ => simp [changedJournal, addedEvents]

theorem sparesDriver_move [Scheduler] {w : Session} {m : Move} (hm : m.callsDriver = false) :
    SparesDriver w (w.asks m) (w.move m) where
  links c conn hc :=
    connection_move (P := (·.link = conn.link)) hc m rfl fun _ => changed_link hm conn
  journals j journal hj := by
    rw [get?_journals_move, if_neg (Roster.ne_next_of_get? hj), hj, Option.map_some,
      changedJournal_of_spared hm]

/-- A statement of the session keeps its side at the driver. -/
theorem driverOf?_move_of_spared [Scheduler] {w : Session} {m : Move} (hm : m.adopted? = none) :
    (w.move m).driverOf? = w.driverOf? := by
  funext s
  rw [driverOf?_move, hm]
  split
  · rename_i hs
    rw [hs, driverOf?, Roster.get?_next]
  · rfl

theorem sameScript_move [Scheduler] {w : Session} {m : Move} (hm : m.sparesDriver = true) :
    SameScript w (w.move m) := by
  simp only [Move.sparesDriver, Bool.and_eq_true, Bool.not_eq_true', Option.isNone_iff_eq_none]
    at hm
  obtain ⟨hcalls, hadopted⟩ := hm
  refine ⟨driverOf?_move_of_spared hadopted, fun j => ?_⟩
  rw [get?_journals_move]
  split
  · rename_i hj
    rw [hj, Roster.get?_next]
    cases hn : m.newJournal? with
    | none => rfl
    | some journal =>
      unfold Move.newJournal? at hn
      split at hn
      · cases hn
        rfl
      · cases hn
  · cases w.journals.get? j with
    | none => rfl
    | some journal =>
      rw [Option.map_some, changedJournal_of_spared hcalls]
      exact Driver.Journal.closeFault?_append journal _

/-! ## Operations -/

theorem SparesDriver.refl (w : Session) : SparesDriver w [] w where
  links c conn hc := ⟨conn, hc, rfl⟩
  journals j journal hj := by rw [hj, List.filterMap_nil, List.append_nil]

theorem SparesDriver.trans {w u v : Session} {closed more : List Nat}
    (h : SparesDriver w closed u) (hscript : SameScript w u) (h' : SparesDriver u more v) :
    SparesDriver w (closed ++ more) v where
  links c conn hc := by
    obtain ⟨conn', hc', hlink⟩ := h.links c conn hc
    obtain ⟨conn'', hc'', hlink'⟩ := h'.links c conn' hc'
    exact ⟨conn'', hc'', hlink'.trans hlink⟩
  journals j journal hj := by
    rw [h'.journals j _ (h.journals j journal hj), hscript.closeEventIn?, List.filterMap_append,
      List.append_assoc]

theorem sparesDriver_moveAll [Scheduler] {w : Session} {ms : List Move}
    (hms : ∀ m ∈ ms, m.sparesDriver = true) :
    SparesDriver w (asksOf (w.trail ms)) (w.moveAll ms) := by
  induction ms generalizing w with
  | nil => exact .refl w
  | cons m ms ih =>
    have hm := hms m (List.mem_cons_self ..)
    have hcalls : m.callsDriver = false := by
      simp only [Move.sparesDriver, Bool.and_eq_true, Bool.not_eq_true'] at hm
      exact hm.1
    exact (sparesDriver_move hcalls).trans (sameScript_move hm)
      (ih fun n hn => hms n (List.mem_cons_of_mem _ hn))

theorem sparesDriver_step [Scheduler] {w : Session} {op : Op} (hop : op.callsDriver = false) :
    SparesDriver w (w.asksIn [op]) (w.step op).1 := by
  have hasked : w.asksIn [op] = asksOf (w.trail (w.moves op)) := by
    simp [asksIn, history]
  rw [hasked, step_eq_moves]
  exact sparesDriver_moveAll (w.moves_spare hop)

/-! ## Calls -/

/-- Moves that are calls on the driver's connection. -/
def Move.isCall : Move → Bool
  | .callOpen _ _ | .callPlain _ _ => true
  | _ => false

/-- The scripted error that the next call through a connection meets. -/
def pendingError? (w : Session) (conn : Connection) : Option DriverError :=
  (w.wire conn).journal.nextError

theorem isCall_of_sparesDriver {m : Move} (hm : m.sparesDriver = true) : m.isCall = false := by
  cases m with
  | callOpen c call | callPlain c call => cases hm
  | _ => rfl

/-- A call that opens nothing is the first of the moves by which it is made. -/
theorem performing_moves [Scheduler] {w : Session} {c : Nat} {conn : Connection}
    (hheld : w.heldConnection? c = some conn) (call : Driver.PlainCall) :
    ∃ rest, w.moves (.connection c (.perform call)) = .callPlain c call :: rest ∧
      ∀ m ∈ rest, m.isCall = false := by
  have hmoves : w.moves (.connection c (.perform call)) = w.performMoves c call := by
    simp only [moves, hheld]
    rfl
  rw [hmoves]
  unfold performMoves
  rw [(Option.filter_eq_some_iff.1 hheld).1]
  dsimp only
  cases ((w.wire conn).perform call).2 with
  | ok value => exact ⟨[], rfl, by simp⟩
  | error e => exact ⟨[.inspect c e], rfl, by simp [Move.isCall]⟩

/-- A call that opens a statement does nothing or is the first of the moves by which it is made. -/
theorem opening_moves [Scheduler] (w : Session) (c : Nat) (call : Driver.OpenCall) :
    (w.moves (.connection c (.openStatement call)) = [] ∧
        (w.heldConnection? c).all (·.closed) = true) ∨
      ∃ conn rest, w.heldConnection? c = some conn ∧ conn.closed = false ∧
        w.moves (.connection c (.openStatement call)) = .callOpen c call :: rest ∧
        ∀ m ∈ rest, m.isCall = false := by
  cases hheld : w.heldConnection? c with
  | none => exact .inl ⟨by simp only [moves, hheld], rfl⟩
  | some conn =>
    have hmoves : w.moves (.connection c (.openStatement call)) = w.openMoves c call := by
      simp only [moves, hheld]
      rfl
    rw [hmoves]
    unfold openMoves
    rw [(Option.filter_eq_some_iff.1 hheld).1]
    dsimp only
    cases ho : conn.closed with
    | true => exact .inl ⟨if_pos rfl, by simp [ho]⟩
    | false =>
      refine .inr ⟨conn, _, rfl, ho, if_neg Bool.false_ne_true, ?_⟩
      unfold askedMoves openedMoves
      repeat' split
      all_goals simp [Move.isCall]

/-- Every other operation makes no calls. -/
theorem isCall_of_mem [Scheduler] {w : Session} {op : Op}
    (hopen : ∀ c call, op ≠ .connection c (.openStatement call))
    (hperform : ∀ c call, op ≠ .connection c (.perform call)) :
    ∀ m ∈ w.moves op, m.isCall = false := by
  intro m hm
  cases hop : op.callsDriver with
  | false => exact isCall_of_sparesDriver (w.moves_spare hop m hm)
  | true =>
    cases op with
    | connection c o =>
      cases o with
      | openStatement call => exact absurd rfl (hopen c call)
      | perform call => exact absurd rfl (hperform c call)
      | _ => cases hop
    | script c line =>
      simp only [moves] at hm
      split at hm
      · cases hm
      · rw [List.mem_singleton.1 hm]
        rfl
    | _ => cases hop

/-- How a call that opens nothing is answered. -/
theorem step_perform_snd [Scheduler] {w : Session} {c : Nat} {conn : Connection}
    (hheld : w.heldConnection? c = some conn) (call : Driver.PlainCall) :
    (w.step (.connection c (.perform call))).2 =
      match w.pendingError? conn, call with
      | some e, _ => .outcome (.err (.driver e))
      | none, .autoCommit => .ok (.flag conn.link.autoCommit)
      | none, _ => .ok .unit := by
  simp only [step, hheld, performConnection, pendingError?]
  unfold perform
  rw [(Option.filter_eq_some_iff.1 hheld).1]
  dsimp only
  unfold Driver.Wire.perform Driver.Journal.takeNextError
  cases (w.wire conn).journal.nextError with
  | some e => rfl
  | none => cases call <;> rfl

/-! ## Mode and numbering -/

/-- The auto-commit mode of a connection's link, and how many plain statements it has numbered. A
connection that was not made stands like a new one. -/
def standing (w : Session) (c : Nat) : Bool × UInt32 :=
  ((w.connections.get? c).map fun conn => (conn.link.autoCommit, conn.link.plainCount)).getD
    (true, 0)

theorem standing_of_some {w : Session} {c : Nat} {conn : Connection}
    (hc : w.connections.get? c = some conn) :
    w.standing c = (conn.link.autoCommit, conn.link.plainCount) := by
  rw [standing, hc]
  rfl

section

variable [Scheduler]

theorem standing_move {w : Session} {m : Move} (hm : m.isCall = false) (c : Nat) :
    (w.move m).standing c = w.standing c := by
  have hlink : ∀ conn, (w.changed m conn).link = conn.link := by
    intro conn
    cases m with
    | script j line => rfl
    | callOpen d call | callPlain d call => cases hm
    | _ => exact changed_link rfl conn
  unfold standing
  rw [get?_connections_move]
  split
  · cases w.connections.get? c with
    | none => rfl
    | some conn => simp [hlink]
  · split
    · rename_i hc
      rw [hc, Roster.get?_next]
      cases m with
      | create p config journal held => rfl
      | _ => rfl
    · rfl

theorem standing_moveAll {w : Session} {ms : List Move} (hms : ∀ m ∈ ms, m.isCall = false)
    (c : Nat) : (w.moveAll ms).standing c = w.standing c := by
  induction ms generalizing w with
  | nil => rfl
  | cons m ms ih =>
    rw [moveAll_cons, ih fun n hn => hms n (List.mem_cons_of_mem _ hn),
      standing_move (hms m (List.mem_cons_self ..))]

/-- A call leaves all other connections as they stand. -/
theorem standing_move_of_ne {w : Session} {m : Move} {c d : Nat} (hm : m.connection? = some d)
    (hne : d ≠ c) : (w.move m).standing c = w.standing c := by
  have hother : ¬ m.connection? = some c := by
    rw [hm]
    exact fun h => hne (Option.some.inj h)
  unfold standing
  rw [get?_connections_move, if_neg hother, created?_of_connection? hm]
  split
  · rename_i hc
    rw [hc, Roster.get?_next]
  · rfl

/-- The mode that an operation sets on a connection, if it is answered without an error. -/
def modeSet? (w : Session) (c : Nat) (op : Op) : Option Bool :=
  match op, (w.step op).2 with
  | .connection d (.perform (.setAutoCommit enabled)), .outcome (.ok _) =>
    if d = c then some enabled else none
  | _, _ => none

/-- Whether an operation makes the driver create a plain statement on a connection. -/
def creates (w : Session) (c : Nat) : Op → Bool
  | .connection d (.openStatement (.create _)) =>
    decide (d = c) &&
      (w.heldConnection? d).any fun conn => !conn.closed && (w.pendingError? conn).isNone
  | _ => false

/-- The modes that were set on a connection in a run, oldest first. -/
def modesSet (ops : List Op) (c : Nat) : List Bool :=
  (calls {} ops).filterMap fun x => x.1.modeSet? c x.2

/-- How many plain statements the driver created on a connection in a run. -/
def creations (ops : List Op) (c : Nat) : Nat :=
  (calls {} ops).countP fun x => x.1.creates c x.2

/-- An operation that is no call leaves mode and numbering as they are. -/
theorem standing_step_of_no_call {w : Session} {op : Op}
    (hopen : ∀ c call, op ≠ .connection c (.openStatement call))
    (hperform : ∀ c call, op ≠ .connection c (.perform call)) (c : Nat) :
    (w.step op).1.standing c =
      ((w.modeSet? c op).getD (w.standing c).1, (w.standing c).2 + (w.creates c op).toUInt32) := by
  have hmode : w.modeSet? c op = none := by
    unfold modeSet?
    split
    · exact absurd rfl (hperform _ _)
    · rfl
  have hcreates : w.creates c op = false := by
    unfold creates
    split
    · exact absurd rfl (hopen _ _)
    · rfl
  rw [step_eq_moves, standing_moveAll (isCall_of_mem hopen hperform), hmode, hcreates]
  simp [Bool.toUInt32]

theorem standing_step_openStatement (w : Session) (d : Nat) (call : Driver.OpenCall) (c : Nat) :
    (w.step (.connection d (.openStatement call))).1.standing c =
      ((w.standing c).1,
        (w.standing c).2 + (w.creates c (.connection d (.openStatement call))).toUInt32) := by
  rw [step_eq_moves]
  rcases w.opening_moves d call with ⟨hnone, hclosed⟩ | ⟨conn, rest, hheld, ho, hmoves, hrest⟩
  · have hcreates : w.creates c (.connection d (.openStatement call)) = false := by
      cases call with
      | create shape =>
        simp only [creates]
        cases hheld : w.heldConnection? d with
        | none => simp
        | some conn =>
          have ho : conn.closed = true := by simpa [hheld] using hclosed
          simp [ho]
      | prepare sql options | prepareCall sql shape => rfl
    rw [hnone, hcreates]
    simp [moveAll, Bool.toUInt32]
  · have hc := (Option.filter_eq_some_iff.1 hheld).1
    rw [hmoves, moveAll_cons, standing_moveAll hrest]
    by_cases hd : d = c
    · subst hd
      have hafter : (w.move (.callOpen d call)).connections.get? d =
          some { conn with link := ((w.wire conn).openStatement call).1.link } := by
        rw [get?_connections_move, if_pos (by rfl), hc]
        rfl
      rw [standing_of_some hafter, standing_of_some hc, Driver.Wire.openStatement_link]
      cases call <;>
        simp [creates, hheld, ho, pendingError?, wire, Driver.OpenCall.sql?, Bool.toUInt32]
    · rw [standing_move_of_ne rfl hd]
      cases call <;> simp [creates, hd, Bool.toUInt32]

/-- A mode is set unless an error is pending. -/
theorem modeSet?_perform {w : Session} {d : Nat} {conn : Connection}
    (hheld : w.heldConnection? d = some conn) (call : Driver.PlainCall) (c : Nat) :
    w.modeSet? c (.connection d (.perform call)) =
      match call, w.pendingError? conn with
      | .setAutoCommit enabled, none => if d = c then some enabled else none
      | _, _ => none := by
  unfold modeSet?
  rw [step_perform_snd hheld]
  cases w.pendingError? conn <;> cases call <;> rfl

theorem standing_step_perform (w : Session) (d : Nat) (call : Driver.PlainCall) (c : Nat) :
    (w.step (.connection d (.perform call))).1.standing c =
      ((w.modeSet? c (.connection d (.perform call))).getD (w.standing c).1,
        (w.standing c).2) := by
  cases hheld : w.heldConnection? d with
  | none =>
    have hstep : w.step (.connection d (.perform call)) = (w, .missing .connection) := by
      simp only [step, hheld]
    unfold modeSet?
    rw [hstep]
    cases call <;> rfl
  | some conn =>
    have hc := (Option.filter_eq_some_iff.1 hheld).1
    obtain ⟨rest, hmoves, hrest⟩ := performing_moves hheld call
    rw [step_eq_moves, hmoves, moveAll_cons, standing_moveAll hrest, modeSet?_perform hheld]
    by_cases hd : d = c
    · subst hd
      have hafter : (w.move (.callPlain d call)).connections.get? d =
          some { conn with link := ((w.wire conn).perform call).1.link } := by
        rw [get?_connections_move, if_pos (by rfl), hc]
        rfl
      rw [standing_of_some hafter, standing_of_some hc, Driver.Wire.perform_link, pendingError?]
      cases (w.wire conn).journal.nextError <;> cases call <;> simp [wire]
    · rw [standing_move_of_ne rfl hd]
      cases w.pendingError? conn <;> cases call <;> simp [hd]

/-- The mode of a connection is changed by setting it, its numbering goes on with each plain
statement that the driver creates on it, and nothing else touches either. -/
theorem standing_step (w : Session) (op : Op) (c : Nat) :
    (w.step op).1.standing c =
      ((w.modeSet? c op).getD (w.standing c).1, (w.standing c).2 + (w.creates c op).toUInt32) := by
  by_cases hopen : ∃ d call, op = .connection d (.openStatement call)
  · obtain ⟨d, call, rfl⟩ := hopen
    exact standing_step_openStatement w d call c
  by_cases hperform : ∃ d call, op = .connection d (.perform call)
  · obtain ⟨d, call, rfl⟩ := hperform
    rw [standing_step_perform]
    simp [creates, Bool.toUInt32]
  exact standing_step_of_no_call (fun d call h => hopen ⟨d, call, h⟩)
    (fun d call h => hperform ⟨d, call, h⟩) c

theorem calls_snoc (w : Session) (ops : List Op) (op : Op) :
    w.calls (ops ++ [op]) = w.calls ops ++ [(w.run ops, op)] := by
  induction ops generalizing w with
  | nil => rfl
  | cons o ops ih =>
    rw [List.cons_append, calls, calls, ih]
    rfl

/-- A connection stands as the calls that succeeded on it have left it, over all its cycles. -/
theorem standing_run (ops : List Op) (c : Nat) :
    (run {} ops).standing c =
      ((modesSet ops c).getLast?.getD true, UInt32.ofNat (creations ops c)) := by
  induction ops using List.reverseRecOn with
  | nil =>
    rw [standing, show (run {} []).connections = .empty from rfl, Roster.get?_empty]
    rfl
  | append_singleton ops op ih =>
    rw [run_snoc, standing_step, ih, modesSet, modesSet, creations, creations, calls_snoc]
    cases hm : (run {} ops).modeSet? c op <;> cases hc : (run {} ops).creates c op <;>
      simp [hm, hc, Bool.toUInt32, UInt32.ofNat_add]

end

/-! ## Statements that are created -/

section Creating

variable {w : Session} {c : Nat}

theorem creates_iff {shape : Option ResultShape} :
    w.creates c (.connection c (.openStatement (.create shape))) = true ↔
      ∃ conn, w.heldConnection? c = some conn ∧ conn.closed = false ∧
        w.pendingError? conn = none := by
  simp [creates, Option.any_eq_true]

/-- A statement that a call returns is the one that the driver has opened for it. -/
theorem openStatement_eq_ok [Scheduler] {call : Driver.OpenCall} {s : Nat}
    (h : (w.openStatement c call).2 = .ok s) : ∃ conn, w.connections.get? c = some conn ∧
      conn.closed = false ∧ w.pendingError? conn = none ∧
      (w.openStatement c call).1.driverOf? s =
        some ⟨call.label conn.link, conn.link.journal⟩ := by
  unfold openStatement at h ⊢
  cases hc : w.connections.get? c with
  | none => rw [hc] at h; cases h
  | some conn =>
    rw [hc] at h
    dsimp only at h ⊢
    cases ho : conn.closed with
    | true => rw [ho] at h; cases h
    | false =>
      rw [ho, if_neg Bool.false_ne_true] at h
      rw [if_neg Bool.false_ne_true]
      generalize (w.setWire c ((w.wire conn).openStatement call).1).closeIfAsked c = asked at h ⊢
      obtain ⟨after, _ | label⟩ := asked
      · rw [Driver.Wire.openStatement_snd] at h ⊢
        cases hn : (w.wire conn).journal.nextError with
        | some e => rw [hn] at h; cases h
        | none =>
          rw [hn] at h
          dsimp only at h ⊢
          refine ⟨conn, rfl, ho, hn, ?_⟩
          generalize hdriver : Driver.Statement.mk (call.label (w.wire conn).link)
            (w.wire conn).link.journal = driver at h ⊢
          have hadopt : (after.adopt c call driver).1 = after.move (.adopt c call driver) := rfl
          have hs : (after.adopt c call driver).2 = after.statements.next := by
            unfold adopt register
            dsimp only
            split <;> rfl
          have hnumber : s = after.statements.next := (Outcome.ok.inj h).symm.trans hs
          rw [hadopt, driverOf?_move, if_pos hnumber, ← hdriver]
          rfl
      · cases h

/-- A call that the driver answers returns no error. -/
theorem openStatement_ne_err {conn : Connection} (hc : w.connections.get? c = some conn)
    (ho : conn.closed = false) (hquiet : w.pendingError? conn = none) (call : Driver.OpenCall)
    (e : LeaseError) : (w.openStatement c call).2 ≠ .err e := by
  unfold pendingError? at hquiet
  intro h
  unfold openStatement at h
  rw [hc] at h
  dsimp only at h
  rw [if_neg (by simp [ho]), Driver.Wire.openStatement_snd, hquiet] at h
  generalize (w.setWire c ((w.wire conn).openStatement call).1).closeIfAsked c = asked at h
  obtain ⟨after, _ | label⟩ := asked <;> cases h

/-- How opening a statement is answered. -/
theorem step_openStatement_eq [Scheduler] {conn : Connection}
    (hheld : w.heldConnection? c = some conn) (call : Driver.OpenCall) :
    (w.step (.connection c (.openStatement call))).1 = (w.openStatement c call).1 ∧
      (w.step (.connection c (.openStatement call))).2 =
        match (w.openStatement c call).2 with
        | .ok s => .ok (match (w.openStatement c call).1.statements.get? s with
          | some statement => .statement ((w.openStatement c call).1.statementView s statement)
          | none => .unit)
        | .err e => .outcome (.err e)
        | .panicked label => .outcome (.panicked label) := by
  simp only [step, hheld, performConnection]
  rcases w.openStatement c call with ⟨after, s | e | label⟩ <;> exact ⟨rfl, rfl⟩

/-- The statement that is returned to a caller. -/
theorem driverOf?_of_returned [Scheduler] {call : Driver.OpenCall} {v : StatementView}
    (h : (w.step (.connection c (.openStatement call))).2 = .ok (.statement v)) :
    ∃ conn, w.heldConnection? c = some conn ∧ conn.closed = false ∧ w.pendingError? conn = none ∧
      (w.step (.connection c (.openStatement call))).1.driverOf? v.statement =
        some ⟨call.label conn.link, conn.link.journal⟩ := by
  cases hheld : w.heldConnection? c with
  | none =>
    simp only [step, hheld] at h
    cases h
  | some conn =>
    obtain ⟨hfst, hsnd⟩ := step_openStatement_eq hheld call
    rw [hsnd] at h
    rcases hr : (w.openStatement c call).2 with s | e | label
    · rw [hr] at h
      obtain ⟨conn', hc', ho, hquiet, hdriver⟩ := openStatement_eq_ok hr
      obtain rfl : conn' = conn :=
        Option.some.inj (hc'.symm.trans (Option.filter_eq_some_iff.1 hheld).1)
      refine ⟨conn', rfl, ho, hquiet, ?_⟩
      have hnumber : v.statement = s := by
        dsimp only at h
        split at h
        · cases h
          rfl
        · cases h
      rw [hfst, hnumber, hdriver]
    · rw [hr] at h
      cases h
    · rw [hr] at h
      cases h

end Creating

/-! ## Events -/

/-- The events of a list of moves are recorded by one of them. -/
theorem mem_eventsOf_moveAll [Scheduler] {w : Session} {ms : List Move} {j : Nat}
    {e : Driver.Event} :
    e ∈ (w.moveAll ms).eventsOf j ↔
      e ∈ w.eventsOf j ∨ ∃ x ∈ w.trail ms, e ∈ x.1.recorded x.2 j := by
  induction ms generalizing w with
  | nil => simp [trail]
  | cons m ms ih =>
    rw [moveAll_cons, ih, eventsOf_move, List.mem_append, trail]
    simp [or_assoc]

theorem eventsOf_moveAll_prefix [Scheduler] (w : Session) (ms : List Move) (j : Nat) :
    w.eventsOf j <+: (w.moveAll ms).eventsOf j := by
  induction ms generalizing w with
  | nil => exact List.prefix_rfl
  | cons m ms ih =>
    refine List.IsPrefix.trans ?_ (ih (w.move m))
    rw [eventsOf_move]
    exact List.prefix_append _ _

section Recording

variable {w : Session} {c : Nat} {conn : Connection} {journal : Driver.Journal}

theorem wire_eq (hj : w.journals.get? conn.link.journal = some journal) :
    w.wire conn = ⟨conn.link, journal⟩ := by
  rw [wire, hj]
  rfl

theorem calledEvents_eq (hc : w.connections.get? c = some conn)
    (events : Driver.Wire → List Driver.Event) :
    w.calledEvents c conn.link.journal journal events = events ⟨conn.link, journal⟩ := by
  rw [calledEvents, hc, Option.filter_some, if_pos (beq_self_eq_true _)]

/-- What a call that opens a statement records. -/
theorem recorded_callOpen (hc : w.connections.get? c = some conn)
    (hj : w.journals.get? conn.link.journal = some journal) (call : Driver.OpenCall) :
    w.recorded (.callOpen c call) conn.link.journal = (w.wire conn).opening call := by
  rw [recorded, hj, wire_eq hj]
  exact calledEvents_eq hc fun wire => wire.opening call

/-- What a call that opens nothing records. -/
theorem recorded_callPlain (hc : w.connections.get? c = some conn)
    (hj : w.journals.get? conn.link.journal = some journal) (call : Driver.PlainCall) :
    w.recorded (.callPlain c call) conn.link.journal = (w.wire conn).performing call := by
  rw [recorded, hj, wire_eq hj]
  exact calledEvents_eq hc fun wire => wire.performing call

end Recording

/-- A plain statement that the driver creates is recorded before anything else that the call
does. -/
theorem eventsOf_creating [Scheduler] {w : Session} (hlinked : w.Linked) {c : Nat}
    {shape : Option ResultShape}
    (hcreates : w.creates c (.connection c (.openStatement (.create shape))) = true) :
    ∃ conn, w.heldConnection? c = some conn ∧
      w.eventsOf conn.link.journal ++
          [.statementCreated ((Driver.OpenCall.create shape).label conn.link) shape] <+:
        (w.step (.connection c (.openStatement (.create shape)))).1.eventsOf conn.link.journal := by
  obtain ⟨conn, hheld, ho, hquiet⟩ := creates_iff.1 hcreates
  have hc := (Option.filter_eq_some_iff.1 hheld).1
  obtain ⟨journal, hj⟩ := Option.isSome_iff_exists.1 (hlinked c conn hc)
  have hopening : (w.wire conn).opening (.create shape) =
      [.statementCreated ((Driver.OpenCall.create shape).label conn.link) shape] := by
    unfold pendingError? at hquiet
    unfold Driver.Wire.opening
    rw [hquiet]
    rfl
  refine ⟨conn, hheld, ?_⟩
  rw [step_eq_moves]
  rcases w.opening_moves c (.create shape) with ⟨-, hclosed⟩ | ⟨-, rest, -, -, hmoves, -⟩
  · rw [hheld, Option.all_some, ho] at hclosed
    cases hclosed
  · rw [hmoves, moveAll_cons, ← hopening, ← recorded_callOpen hc hj, ← eventsOf_move]
    exact eventsOf_moveAll_prefix _ rest _

theorem opening_ne_connectionClosed {w : Driver.Wire} {call : Driver.OpenCall} :
    .connectionClosed ∉ w.opening call := by
  unfold Driver.Wire.opening
  split
  · cases call <;> simp [Driver.OpenCall.event]
  · simp

/-- Only a call that closes the driver's connection records that. -/
theorem connectionClosed_recorded {w : Session} {m : Move} {j : Nat}
    (h : .connectionClosed ∈ w.recorded m j) : ∃ c conn, m = .callPlain c .close ∧
      w.connections.get? c = some conn ∧ conn.link.journal = j ∧ w.pendingError? conn = none := by
  unfold recorded at h
  cases hj : w.journals.get? j with
  | none =>
    rw [hj] at h
    cases h
  | some journal =>
    rw [hj] at h
    have hadded : .connectionClosed ∈ w.addedEvents m j journal := h
    cases hm : m.callsDriver with
    | false =>
      rw [addedEvents_of_spared hm] at hadded
      obtain ⟨s, -, hs⟩ := List.mem_filterMap.1 hadded
      obtain ⟨label, -, htried, -⟩ := closeEventIn?_eq_some hs
      cases htried
    | true =>
      cases m with
      | callOpen c call =>
        simp only [addedEvents] at hadded
        obtain ⟨wire, hopening⟩ := mem_calledEvents hadded
        exact absurd hopening opening_ne_connectionClosed
      | callPlain c call =>
        simp only [addedEvents, calledEvents] at hadded
        split at hadded
        · rename_i conn hfilter
          obtain ⟨hc, hlink⟩ := Option.filter_eq_some_iff.1 hfilter
          obtain rfl : conn.link.journal = j := by simpa using hlink
          unfold Driver.Wire.performing at hadded
          split at hadded
          · rename_i hquiet
            have hevent : call.event? = some .connectionClosed := Option.mem_toList.1 hadded
            have hclose : call = .close := by cases call <;> first | rfl | cases hevent
            refine ⟨c, conn, by rw [hclose], hc, rfl, ?_⟩
            rw [pendingError?, wire_eq hj]
            exact Option.isNone_iff_eq_none.1 hquiet
          · cases hadded
        · cases hadded
      | script k line => cases hadded
      | _ => cases hm

/-- A call that opens nothing comes from its caller, and before anything else. -/
theorem callPlain_of_mem_trail [Scheduler] {w u : Session} {op : Op} {c : Nat}
    {call : Driver.PlainCall} (h : (u, .callPlain c call) ∈ w.trail (w.moves op)) :
    u = w ∧ op = .connection c (.perform call) ∧ ∃ conn, w.heldConnection? c = some conn := by
  have hmem : .callPlain c call ∈ w.moves op := mem_of_mem_trail h
  by_cases hopen : ∃ d open', op = .connection d (.openStatement open')
  · obtain ⟨d, open', rfl⟩ := hopen
    rcases w.opening_moves d open' with ⟨hnone, -⟩ | ⟨conn, rest, -, -, hmoves, hrest⟩
    · rw [hnone] at hmem
      cases hmem
    · rw [hmoves] at hmem
      cases List.mem_of_ne_of_mem (by simp) hmem |> hrest _
  by_cases hperform : ∃ d plain, op = .connection d (.perform plain)
  · obtain ⟨d, plain, rfl⟩ := hperform
    obtain ⟨conn, hheld⟩ := heldConnection?_of_mem hmem
    obtain ⟨rest, hmoves, hrest⟩ := performing_moves hheld plain
    rw [hmoves] at h
    rcases List.mem_cons.1 h with h | h
    · cases h
      exact ⟨rfl, rfl, conn, hheld⟩
    · cases hrest _ (mem_of_mem_trail h)
  cases isCall_of_mem (fun d open' h => hopen ⟨d, open', h⟩)
    (fun d plain h => hperform ⟨d, plain, h⟩) _ hmem

/-- A caller closes the driver's connection, through a connection with the journal `j`. -/
structure Disconnects [Scheduler] (w : Session) (j : Nat) (op : Op) (c : Nat) (conn : Connection) :
    Prop where
  call : op = .connection c (.perform .close)
  held : w.heldConnection? c = some conn
  journal : conn.link.journal = j
  reply : (w.step op).2 = .ok .unit

section

variable [Scheduler]

theorem connectionClosed_step {w : Session} (hlinked : w.Linked) (op : Op) (j : Nat) :
    .connectionClosed ∈ (w.step op).1.eventsOf j ↔
      .connectionClosed ∈ w.eventsOf j ∨ ∃ c conn, w.Disconnects j op c conn := by
  rw [step_eq_moves, mem_eventsOf_moveAll]
  refine or_congr_right ⟨?_, ?_⟩
  · rintro ⟨⟨u, m⟩, hx, hrecorded⟩
    obtain ⟨c, conn, hm, hc, hj, hquiet⟩ := connectionClosed_recorded hrecorded
    obtain rfl : m = .callPlain c .close := hm
    obtain ⟨rfl, rfl, conn', hheld⟩ := callPlain_of_mem_trail hx
    obtain rfl : conn' = conn :=
      Option.some.inj ((Option.filter_eq_some_iff.1 hheld).1.symm.trans hc)
    refine ⟨c, conn', rfl, hheld, hj, ?_⟩
    rw [step_perform_snd hheld, hquiet]
  · rintro ⟨c, conn, rfl, hheld, rfl, hreply⟩
    have hc := (Option.filter_eq_some_iff.1 hheld).1
    obtain ⟨journal, hj⟩ := Option.isSome_iff_exists.1 (hlinked c conn hc)
    obtain ⟨rest, hmoves, -⟩ := performing_moves hheld .close
    rw [hmoves]
    refine ⟨(w, .callPlain c .close), List.mem_cons_self .., ?_⟩
    rw [recorded_callPlain hc hj]
    rw [step_perform_snd hheld] at hreply
    cases hquiet : w.pendingError? conn with
    | some e =>
      rw [hquiet] at hreply
      cases hreply
    | none =>
      unfold pendingError? at hquiet
      simp [Driver.Wire.performing, hquiet, Driver.PlainCall.event?]

theorem connectionClosed_run (ops : List Op) (j : Nat) :
    .connectionClosed ∈ (run {} ops).eventsOf j ↔
      ∃ x ∈ calls {} ops, ∃ c conn, x.1.Disconnects j x.2 c conn := by
  induction ops using List.reverseRecOn with
  | nil =>
    rw [eventsOf, show (run {} []).journals = .empty from rfl, Roster.get?_empty]
    simp [calls]
  | append_singleton ops op ih =>
    rw [run_snoc, connectionClosed_step (linked_run (by simp [Linked]) ops), ih, calls_snoc]
    simp [or_and_right, exists_or]

/-! ## The law -/

theorem standing_of_connection {ops : List Op} {c : Nat} {conn : Connection}
    (hc : (run {} ops).connections.get? c = some conn) :
    conn.link.autoCommit = (modesSet ops c).getLast?.getD true ∧
      conn.link.plainCount = UInt32.ofNat (creations ops c) :=
  Prod.ext_iff.1 ((standing_of_some hc).symm.trans (standing_run ops c))

theorem label_of_connection {ops : List Op} {c : Nat} {conn : Connection}
    (hheld : (run {} ops).heldConnection? c = some conn) {shape : Option ResultShape}
    (hfits : creations ops c + 1 < UInt32.size) :
    (Driver.OpenCall.create shape).label conn.link =
      "statement#" ++ toString (creations ops c + 1) :=
  Driver.OpenCall.label_of_count (fun _ => hfits)
    (standing_of_connection (Option.filter_eq_some_iff.1 hheld).1).2

/-- What the driver notices of the session `w` that the operations `ops` lead to. -/
structure DriverSpared (ops : List Op) (w : Session) : Prop where
  /-- Operations that neither call the driver nor write its script leave its connections and
  scripts alone, pending errors included, and record nothing but the statements that they close. -/
  spared : ∀ op, op.callsDriver = false → SparesDriver w (w.asksIn [op]) (w.step op).1
  /-- The same goes for what a call does besides calling, such as a close within it, … -/
  sparedWithin : ∀ op, ∀ x ∈ w.trail (w.moves op), x.2.callsDriver = false →
    SparesDriver x.1 (x.1.asks x.2) (x.1.move x.2)
  /-- … and for giving a connection back. -/
  released : ∀ c, (w.release c).connections = w.connections ∧
    (w.release c).journals = w.journals
  /-- The statements that an operation closes are those whose flag it sets, each once. -/
  closes : ∀ op, (w.asksIn [op]).Nodup ∧
    ∀ s, s ∈ w.asksIn [op] ↔ ¬ Ended s w ∧ Ended s (w.step op).1
  /-- The event of a close names the statement. -/
  records : ∀ j s e, w.closeEventIn? j s = some e → ∃ label, w.driverOf? s = some ⟨label, j⟩ ∧
    (e = .statementClosed label ∨ e = .statementCloseFailed label)
  /-- The mode is what was last set in any cycle, and the numbering goes on over all cycles, as far
  as there are numbers. -/
  standing : ∀ c conn, w.connections.get? c = some conn →
    conn.link.autoCommit = (modesSet ops c).getLast?.getD true ∧
      (creations ops c < UInt32.size → conn.link.plainCount.toNat = creations ops c)
  reading : ∀ c conn, w.heldConnection? c = some conn →
    (w.step (.connection c (.perform .autoCommit))).2 =
      match w.pendingError? conn with
      | some e => .outcome (.err (.driver e))
      | none => .ok (.flag ((modesSet ops c).getLast?.getD true))
  /-- Whatever becomes of the call, the driver records the next number. -/
  numbering : ∀ c shape, w.creates c (.connection c (.openStatement (.create shape))) = true →
    creations ops c + 1 < UInt32.size →
    ∃ conn more, w.heldConnection? c = some conn ∧
      (w.step (.connection c (.openStatement (.create shape)))).1.eventsOf conn.link.journal =
        w.eventsOf conn.link.journal ++
          .statementCreated ("statement#" ++ toString (creations ops c + 1)) shape :: more
  /-- A statement that is returned was counted, and has the next number; … -/
  returned : ∀ c shape v,
    (w.step (.connection c (.openStatement (.create shape)))).2 = .ok (.statement v) →
    w.creates c (.connection c (.openStatement (.create shape))) = true ∧
      (creations ops c + 1 < UInt32.size →
        ((w.step (.connection c (.openStatement (.create shape)))).1.driverOf? v.statement).map
          (·.label) = some ("statement#" ++ toString (creations ops c + 1)))
  /-- … an error was not. -/
  refused : ∀ c shape e,
    (w.step (.connection c (.openStatement (.create shape)))).2 = .outcome (.err e) →
    w.creates c (.connection c (.openStatement (.create shape))) = false
  /-- The driver's connection is closed by callers, and by nothing else. -/
  disconnected : ∀ j, .connectionClosed ∈ w.eventsOf j ↔
    ∃ x ∈ calls {} ops, ∃ c conn, x.1.Disconnects j x.2 c conn

theorem driver_spared (ops : List Op) : DriverSpared ops (run {} ops) where
  spared op hop := sparesDriver_step hop
  sparedWithin op x _ hx := sparesDriver_move hx
  released c := ⟨(release_fields _ c).2.2.1, (release_fields _ c).2.1⟩
  closes op := by
    obtain ⟨hnodup, hended, hopen⟩ := asksIn_run (run {} ops) [op]
    refine ⟨hnodup, fun s => ⟨fun hs => ⟨hopen s hs, (hended s).2 (.inr hs)⟩, ?_⟩⟩
    rintro ⟨hbefore, hafter⟩
    exact ((hended s).1 hafter).resolve_left hbefore
  records j s e h := by
    obtain ⟨label, hd, htried, -⟩ := closeEventIn?_eq_some h
    refine ⟨label, hd, ?_⟩
    cases e with
    | statementClosed t => cases htried; exact .inl rfl
    | statementCloseFailed t => cases htried; exact .inr rfl
    | _ => cases htried
  standing c conn hc := by
    obtain ⟨hmode, hcount⟩ := standing_of_connection hc
    exact ⟨hmode, fun hfits => by rw [hcount, UInt32.toNat_ofNat_of_lt' hfits]⟩
  reading c conn hheld := by
    have hc := (Option.filter_eq_some_iff.1 hheld).1
    rw [step_perform_snd hheld, (standing_of_connection hc).1]
    cases (run {} ops).pendingError? conn <;> rfl
  numbering c shape hcreates hfits := by
    have hlinked := linked_run (w := {}) (by simp [Linked]) ops
    obtain ⟨conn, hheld, hrecorded⟩ := eventsOf_creating hlinked hcreates
    rw [label_of_connection hheld hfits] at hrecorded
    obtain ⟨more, hmore⟩ := hrecorded
    exact ⟨conn, more, hheld, by rw [← hmore, List.append_assoc]; rfl⟩
  returned c shape v h := by
    obtain ⟨conn, hheld, ho, hquiet, hdriver⟩ := driverOf?_of_returned h
    refine ⟨creates_iff.2 ⟨conn, hheld, ho, hquiet⟩, fun hfits => ?_⟩
    rw [hdriver, label_of_connection hheld hfits]
    rfl
  refused c shape e h := by
    rw [← Bool.not_eq_true]
    intro hcreates
    obtain ⟨conn, hheld, ho, hquiet⟩ := creates_iff.1 hcreates
    rw [(step_openStatement_eq hheld _).2] at h
    have hanswered := openStatement_ne_err (Option.filter_eq_some_iff.1 hheld).1 ho hquiet
      (.create shape)
    rcases hr : ((run {} ops).openStatement c (.create shape)).2 with s | e' | label
    · rw [hr] at h
      cases h
    · exact hanswered e' hr
    · rw [hr] at h
      cases h
  disconnected := connectionClosed_run ops

end

end Session

end ConnLease
