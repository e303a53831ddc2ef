import ConnLease.Driver.Journal

/-!
# Driver connections

A link is one physical connection of the scripted driver. Every call on a link first meets the
scripted error of its journal, if one is pending; only a call that succeeds changes the link and is
recorded.
-/

namespace ConnLease.Driver

/-- A connection that writes to the journal with number `journal`. -/
structure Link where
  journal : Nat
  autoCommit : Bool := true
  /-- How many plain statements have been created, in 32 bits: after `2 ^ 32` of them the count is
  zero again. (A build that checks its arithmetic panics there instead.) -/
  plainCount : UInt32 := 0
deriving Repr, DecidableEq

/-- A statement as the driver knows it. -/
structure Statement where
  label : String
  journal : Nat
deriving Repr, DecidableEq

/-- A call that opens a statement. -/
inductive OpenCall where
  | create (shape : Option ResultShape)
  | prepare (sql : String) (options : StatementOptions)
  | prepareCall (sql : String) (shape : Option ResultShape)
deriving Repr, DecidableEq

/-- A call that opens nothing. -/
inductive PlainCall where
  | autoCommit
  | setAutoCommit (enabled : Bool)
  | commit
  | rollback
  | close
deriving Repr, DecidableEq

/-- The SQL text of a call; a plain statement has none. -/
def OpenCall.sql? : OpenCall → Option String
  | .create _ => none
  | .prepare sql _ | .prepareCall sql _ => some sql

/-- The label of the statement that a call opens on a link: its SQL text, or a running number. -/
def OpenCall.label (call : OpenCall) (l : Link) : String :=
  match call.sql? with
  | some sql => sql
  | none => "statement#" ++ toString (l.plainCount + 1)

/-- There is a number left for the statement that a call opens when `count` plain statements have
been created. A statement with an SQL text needs none. -/
def OpenCall.Fits (call : OpenCall) (count : Nat) : Prop :=
  call.sql? = none → count + 1 < UInt32.size

theorem OpenCall.label_of_count {call : OpenCall} {l : Link} {count : Nat} (h : call.Fits count)
    (hcount : l.plainCount = UInt32.ofNat count) :
    call.label l = call.sql?.getD ("statement#" ++ toString (count + 1)) := by
  unfold label
  cases hsql : call.sql? with
  | some sql => rfl
  | none =>
    have hnext : (l.plainCount + 1).toNat = count + 1 := by
      rw [hcount]
      exact (congrArg UInt32.toNat (UInt32.ofNat_add count 1)).symm.trans
        (UInt32.toNat_ofNat_of_lt' (h hsql))
    change "statement#" ++ toString (l.plainCount + 1).toNat = _
    rw [hnext]
    rfl

/-- What the journal says about a call that opened a statement. -/
def OpenCall.event (call : OpenCall) (label : String) : Event :=
  match call with
  | .create shape => .statementCreated label shape
  | .prepare _ options => .statementPrepared label options
  | .prepareCall _ shape => .callPrepared label shape

/-- What the journal says about a call that opened nothing; reading a mode leaves no trace. -/
def PlainCall.event? : PlainCall → Option Event
  | .autoCommit => none
  | .setAutoCommit enabled => some (.autoCommitSet enabled)
  | .commit => some .committed
  | .rollback => some .rolledBack
  | .close => some .connectionClosed

/-- A link with its journal, as a call finds and leaves them. -/
structure Wire where
  link : Link
  journal : Journal
deriving Repr, DecidableEq

namespace Wire

def openStatement (w : Wire) (call : OpenCall) : Wire × Except DriverError Statement :=
  match w.journal.takeNextError with
  | (j, some e) => ({ w with journal := j }, .error e)
  | (j, none) =>
    let label := call.label w.link
    let plainCount := if call.sql?.isNone then w.link.plainCount + 1 else w.link.plainCount
    ({ link := { w.link with plainCount }, journal := j.record (call.event label) },
      .ok ⟨label, w.link.journal⟩)

/-- Perform a call; reading the auto-commit mode gives the mode. -/
def perform (w : Wire) (call : PlainCall) : Wire × Except DriverError (Option Bool) :=
  match w.journal.takeNextError with
  | (j, some e) => ({ w with journal := j }, .error e)
  | (j, none) =>
    let journal :=
      match call.event? with
      | some e => j.record e
      | none => j
    match call with
    | .autoCommit => ({ w with journal }, .ok (some w.link.autoCommit))
    | .setAutoCommit enabled =>
      ({ link := { w.link with autoCommit := enabled }, journal }, .ok none)
    | _ => ({ w with journal }, .ok none)

end Wire

end ConnLease.Driver
