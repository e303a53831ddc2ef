import ConnLease.Proofs.Session.Journals
import ConnLease.Proofs.Session.Strays
import ConnLease.Session.Factories

/-!
# Opening a statement is all or nothing

A factory is refused by a closed connection, and then nothing at all happens; or the driver fails,
and then the pending error is used up and the connection has seen it; or the driver opens the
statement, records the request as it was made, and the connection tracks the statement under a new
number. There is nothing in between, whatever led to the session.

Main statement: `all_or_nothing`. A driver that closes the connection within the call that opens a
statement (`Connection.closesOnOpen`) is left aside; `Strays` says what becomes of the statement
then.
-/

namespace ConnLease

/-! ## What a factory asks for -/

namespace Factory

def kind : Factory → StatementKind
  | .create | .createWith _ => .plain
  | .prepareCall _ | .prepareCallWith _ _ => .callable
  | _ => .prepared

/-- The SQL text; a plain statement has none. -/
def sql? : Factory → Option String
  | .create | .createWith _ => none
  | .prepare sql | .prepareWith sql _ | .prepareReturningKeys sql
  | .prepareWithColumnIndexes sql _ | .prepareWithColumnNames sql _
  | .prepareCall sql | .prepareCallWith sql _ => some sql

/-- The shape of the result set, if one is asked for. -/
def shape? : Factory → Option ResultShape
  | .createWith shape | .prepareCallWith _ shape => some shape
  | .prepareWith _ options => options.shape
  | _ => none

/-- The generated keys that are asked for. -/
def keys : Factory → KeyRequest
  | .prepareWith _ options => options.keys
  | .prepareReturningKeys _ => .driverChosen
  | .prepareWithColumnIndexes _ columns => .columnIndexes columns
  | .prepareWithColumnNames _ columns => .columnNames columns
  | _ => .none

/-- The label of the statement: its SQL text, or the next number for a plain statement when
`plainCount` of them have been created. -/
def label (f : Factory) (plainCount : Nat) : String :=
  f.sql?.getD ("statement#" ++ toString (plainCount + 1))

/-- The event of a statement that was opened as requested. -/
def event (f : Factory) (label : String) : Driver.Event :=
  match f.kind with
  | .plain => .statementCreated label f.shape?
  | .prepared => .statementPrepared label { shape := f.shape?, keys := f.keys }
  | .callable => .callPrepared label f.shape?

theorem kind_call (f : Factory) : f.call.kind = f.kind := by cases f <;> rfl

theorem sql?_call (f : Factory) : f.call.sql? = f.sql? := by cases f <;> rfl

theorem event_call (f : Factory) (label : String) : f.call.event label = f.event label := by
  cases f <;> rfl

theorem label_call {f : Factory} {l : Driver.Link} (h : f.call.Fits l.plainCount.toNat) :
    f.call.label l = f.label l.plainCount.toNat := by
  rw [Driver.OpenCall.label_of_count h UInt32.ofNat_toNat.symm, f.sql?_call]
  rfl

/-- Plain statements are the ones without SQL text. -/
theorem sql?_isNone_iff (f : Factory) : f.sql?.isNone = true ↔ f.kind = .plain := by
  cases f <;> simp [sql?, kind]

end Factory

/-! ## Calls on a link -/

namespace Driver.Wire

theorem openStatement_of_error {w : Wire} {e : DriverError} (h : w.journal.nextError = some e)
    (call : OpenCall) :
    w.openStatement call =
      ({ w with journal := { w.journal with nextError := none } }, .error e) := by
  unfold openStatement Journal.takeNextError
  rw [h]

theorem openStatement_of_none {w : Wire} (h : w.journal.nextError = none) {f : Factory}
    (hfits : f.call.Fits w.link.plainCount.toNat) :
    w.openStatement f.call =
      ({ link := { w.link with
           plainCount :=
             if f.kind = .plain then w.link.plainCount + 1 else w.link.plainCount }
         journal := w.journal.record (f.event (f.label w.link.plainCount.toNat)) },
        .ok ⟨f.label w.link.plainCount.toNat, w.link.journal⟩) := by
  obtain ⟨link, events, nextError, closeErrors, panics⟩ := w
  obtain rfl : nextError = none := h
  unfold openStatement Journal.takeNextError
  simp only [Factory.label_call hfits, f.event_call, f.sql?_call, f.sql?_isNone_iff]

end Driver.Wire

namespace Session

/-! ## The three outcomes -/

/-- The driver failed with `e` when the connection `c` with the record `conn` was to open a
statement. The journal keeps its events; the connection keeps its flags, its list and the numbers of
its plain statements, and is broken if `e` is fatal. -/
structure OpenFailed (w : Session) (c : Nat) (conn : Connection) (e : DriverError)
    (r : Session × Outcome Nat) : Prop where
  outcome : r.2 = .err (.driver e)
  journals : r.1.journals = w.journals.modify conn.link.journal fun journal =>
    { journal with nextError := none }
  connections : r.1.connections = w.connections.modify c fun _ =>
    { conn with broken := conn.broken || (conn.classifier.judge e).isFatal }
  statements : r.1.statements = w.statements
  watch : r.1.watch = w.watch
  pools : r.1.pools = w.pools

/-- The driver opened a statement for the factory `f` on the connection `c` with the record
`conn`. -/
structure Opened (w : Session) (c : Nat) (conn : Connection) (f : Factory)
    (r : Session × Outcome Nat) : Prop where
  outcome : r.2 = .ok w.statements.next
  /-- The number is larger than that of every statement before. -/
  fresh : ∀ t statement, w.statements.get? t = some statement → t < w.statements.next
  statements : r.1.statements = w.statements.push
    { connection := c, kind := f.kind, sql := f.sql?, closed := false
      driver := ⟨f.label conn.link.plainCount.toNat, conn.link.journal⟩ }
  journals : r.1.journals = w.journals.modify conn.link.journal fun journal =>
    { journal with events := journal.events ++ [f.event (f.label conn.link.plainCount.toNat)] }
  connections : r.1.connections = w.connections.modify c fun _ =>
    { conn with
      link := { conn.link with
        plainCount :=
          if f.kind = .plain then conn.link.plainCount + 1 else conn.link.plainCount }
      tracked := conn.tracked.register w.statements.next () }
  /-- The statement is the last one on the list. -/
  last : r.1.openIds c = w.openIds c ++ [w.statements.next]
  watch : r.1.watch = w.watch
  pools : r.1.pools = w.pools

/-- What a factory comes to on the connection `c` with the record `conn`. A plain statement is
opened as long as the driver has a number for it. -/
structure AllOrNothing (w : Session) (c : Nat) (conn : Connection) (f : Factory)
    (r : Session × Outcome Nat) : Prop where
  linked : ∃ journal, w.journals.get? conn.link.journal = some journal
  refused : conn.closed = true → r = (w, .err (.connectionClosed c))
  failed : conn.closed = false → conn.closesOnOpen = false → ∀ journal e,
    w.journals.get? conn.link.journal = some journal → journal.nextError = some e →
      OpenFailed w c conn e r
  opened : conn.closed = false → conn.closesOnOpen = false → ∀ journal,
    w.journals.get? conn.link.journal = some journal → journal.nextError = none →
    f.call.Fits conn.link.plainCount.toNat → Opened w c conn f r

section Open

variable {w : Session} {c : Nat} {conn : Connection} {journal : Driver.Journal}

theorem closeIfAsked_of_not_asked (hc : w.connections.get? c = some conn)
    (hplain : conn.closesOnOpen = false) : w.closeIfAsked c = (w, none) := by
  unfold closeIfAsked
  rw [hc]
  split
  · rename_i h
    cases h
    cases hplain
  · rfl

theorem adopt_snd (w : Session) (c : Nat) (call : Driver.OpenCall) (driver : Driver.Statement) :
    (w.adopt c call driver).2 = w.statements.next := by
  unfold adopt register
  dsimp only
  split <;> rfl

variable (hc : w.connections.get? c = some conn) (hopen : conn.closed = false)
include hc hopen

/-- An open connection tracks the statement that the driver has opened. -/
theorem connections_adopt [Scheduler] (called : Driver.Wire) (call : Driver.OpenCall)
    (driver : Driver.Statement) :
    ((w.setWire c called).adopt c call driver).1.connections = w.connections.modify c fun _ =>
      { conn with
        link := called.link, tracked := conn.tracked.register w.statements.next () } := by
  rw [adopt_connections]
  refine (Roster.modify_modify ..).trans (Roster.modify_congr_of_some hc ?_)
  simp only [changed]
  rw [if_neg (by simp [hopen])]
  rfl

variable (hplain : conn.closesOnOpen = false)
variable (hj : w.journals.get? conn.link.journal = some journal)
include hplain hj

/-- The call on the driver comes first; what follows depends on its answer alone. -/
theorem openBy_eq (f : Factory) :
    w.openBy c f =
      match Driver.Wire.openStatement ⟨conn.link, journal⟩ f.call with
      | (called, .error e) => (w.setWire c called).refuse c e
      | (called, .ok driver) =>
        (((w.setWire c called).adopt c f.call driver).1,
          .ok ((w.setWire c called).adopt c f.call driver).2) := by
  have hwire : w.wire conn = ⟨conn.link, journal⟩ := by
    unfold wire
    rw [hj]
    rfl
  have hasked : ∀ called : Driver.Wire,
      (w.setWire c called).closeIfAsked c = (w.setWire c called, none) := by
    intro called
    have hcalled : (w.setWire c called).connections.get? c =
        some { conn with link := called.link } := by
      simp [setWire, hc]
    exact closeIfAsked_of_not_asked hcalled hplain
  unfold openBy openStatement
  rw [hc]
  dsimp only
  rw [if_neg (by simp [hopen]), hwire]
  rcases Driver.Wire.openStatement ⟨conn.link, journal⟩ f.call with ⟨called, e | driver⟩
  all_goals
    dsimp only
    rw [hasked]

theorem openFailed_openBy (f : Factory) {e : DriverError} (he : journal.nextError = some e) :
    OpenFailed w c conn e (w.openBy c f) := by
  rw [openBy_eq hc hopen hplain hj f, Driver.Wire.openStatement_of_error he f.call]
  unfold refuse
  refine
    { outcome := rfl
      journals := ?_
      connections := ?_
      statements := by simp [setWire]
      watch := by simp [setWire]
      pools := by simp [setWire] }
  · rw [(inspect_fields _ c e).2.1]
    exact Roster.modify_congr_of_some hj rfl
  · rw [inspect_connections]
    exact (Roster.modify_modify ..).trans (Roster.modify_congr_of_some hc rfl)

theorem opened_openBy [Scheduler] {f : Factory} (he : journal.nextError = none)
    (hfits : f.call.Fits conn.link.plainCount.toNat) : Opened w c conn f (w.openBy c f) := by
  rw [openBy_eq hc hopen hplain hj f, Driver.Wire.openStatement_of_none he hfits]
  dsimp only
  have hconnections := connections_adopt hc hopen
    { link := { conn.link with
        plainCount := if f.kind = .plain then conn.link.plainCount + 1 else conn.link.plainCount }
      journal := journal.record (f.event (f.label conn.link.plainCount.toNat)) } f.call
    ⟨f.label conn.link.plainCount.toNat, conn.link.journal⟩
  refine
    { outcome := congrArg Outcome.ok (adopt_snd ..)
      fresh := fun t statement ht => Roster.lt_next_of_get? ht
      statements := ?_
      journals := ?_
      connections := hconnections
      last := ?_
      watch := by simp [setWire]
      pools := by simp [setWire] }
  · rw [(adopt_fields ..).2.2.2, f.kind_call, f.sql?_call]
    rfl
  · rw [(adopt_fields ..).2.1]
    exact Roster.modify_congr_of_some hj rfl
  · have hlast := congrArg (Roster.get? · c) hconnections
    simp only [Roster.get?_modify_self, hc, Option.map_some] at hlast
    rw [openIds_eq hlast, openIds_eq hc, Registry.ids_register]

end Open

theorem all_or_nothing [Scheduler] {w : Session} (reachable : w.Reachable) {c : Nat}
    {conn : Connection} (found : w.connections.get? c = some conn) (f : Factory) :
    AllOrNothing w c conn f (w.openBy c f) := by
  have hlinked : w.Linked := by
    obtain ⟨ops, rfl⟩ := reachable
    refine linked_run ?_ ops
    intro d other hd
    simp at hd
  refine
    { linked := Option.isSome_iff_exists.1 (hlinked c conn found)
      refused := ?_
      failed := fun ho hp _ _ hj he => openFailed_openBy found ho hp hj f he
      opened := fun ho hp _ hj he hfits => opened_openBy found ho hp hj he hfits }
  intro hclosed
  unfold openBy openStatement
  rw [found]
  dsimp only
  rw [if_pos hclosed]

section

attribute [local instance] Scheduler.exact

/-- Connection 1 is closed, with an error pending for its next call; a fatal one is pending for
connection 2; connection 3 tracks a plain statement. -/
def threeDoors : Session :=
  run {}
    [.newPool .recycling, .pool 0 (.connect none), .pool 0 (.connect none),
      .pool 0 (.connect none), .connection 3 (.openStatement (.create none)),
      .connection 1 .close, .script 1 (.failNext { message := "busy" }),
      .script 2 (.failNext { message := "gone", sqlState := some ⟨"08006"⟩ })]

theorem all_or_nothing_threeDoors : ∃ failing fresh,
    threeDoors.Reachable ∧ threeDoors.connections.get? 2 = some failing ∧
      threeDoors.connections.get? 3 = some fresh ∧
      threeDoors.openBy 1 .create = (threeDoors, .err (.connectionClosed 1)) ∧
      OpenFailed threeDoors 2 failing { message := "gone", sqlState := some ⟨"08006"⟩ }
        (threeDoors.openBy 2 (.prepareReturningKeys "A")) ∧
      Opened threeDoors 3 fresh (.prepareWithColumnNames "A" ["id"])
        (threeDoors.openBy 3 (.prepareWithColumnNames "A" ["id"])) ∧
      Opened threeDoors 3 fresh .create (threeDoors.openBy 3 .create) := by
  have hreachable : threeDoors.Reachable := ⟨_, rfl⟩
  have hrefused := all_or_nothing hreachable (c := 1) rfl .create
  have hfailed := all_or_nothing hreachable (c := 2) rfl (.prepareReturningKeys "A")
  have hopened := all_or_nothing hreachable (c := 3) rfl (.prepareWithColumnNames "A" ["id"])
  have hcreated := all_or_nothing hreachable (c := 3) rfl .create
  have hfits : Factory.create.call.Fits 1 := fun _ => by decide
  exact ⟨_, _, hreachable, rfl, rfl, hrefused.refused rfl, hfailed.failed rfl rfl _ _ rfl rfl,
    hopened.opened rfl rfl _ rfl rfl (fun h => nomatch h),
    hcreated.opened rfl rfl _ rfl rfl hfits⟩

end

end Session

end ConnLease
