import ConnLease.Driver.Link
import ConnLease.Roster

/-!
# A bench for the scripted driver

The driver on its own: any number of links and statements, with journals shared in any way. Links
and statements are numbered from zero. Nothing here keeps a statement from being closed twice.
-/

namespace ConnLease.Driver

structure Bench where
  journals : Roster 0 Journal := .empty
  links : Roster 0 Link := .empty
  opened : Roster 0 Statement := .empty
deriving Repr, DecidableEq

namespace Bench

inductive Op where
  /-- Connect with a new journal, or with the journal of another link. -/
  | connect (share : Option Nat)
  | openStatement (link : Nat) (call : OpenCall)
  | perform (link : Nat) (call : PlainCall)
  | closeStatement (statement : Nat)
  | failNext (link : Nat) (e : DriverError)
  | failClose (link : Nat) (label : String) (e : DriverError)
  | panicOnClose (link : Nat) (label : String)
  | readJournal (link : Nat)
deriving Repr, DecidableEq

inductive Reply where
  /-- The step names a link or a statement that does not exist. -/
  | missing
  | connected (link : Nat)
  | opened (statement : Nat) (label : String)
  | mode (autoCommit : Bool)
  | done
  | scripted
  | failed (e : DriverError)
  | panicked (label : String)
  | journal (j : Journal)
deriving Repr, DecidableEq

def journalOf? (b : Bench) (link : Nat) : Option Journal :=
  (b.links.get? link).bind fun l => b.journals.get? l.journal

/-- The link with its journal. -/
def wire? (b : Bench) (link : Nat) : Option Wire :=
  (b.links.get? link).bind fun l => (b.journals.get? l.journal).map (⟨l, ·⟩)

/-- Put a link and its journal back after a call. -/
def setWire (b : Bench) (link : Nat) (w : Wire) : Bench :=
  { b with
    links := b.links.modify link fun _ => w.link
    journals := b.journals.modify w.link.journal fun _ => w.journal }

def connect (b : Bench) (share : Option Nat) : Bench × Reply :=
  match share with
  | none =>
    ({ b with
        journals := b.journals.push {}
        links := b.links.push { journal := b.journals.next } }, .connected b.links.next)
  | some other =>
    match b.links.get? other with
    | none => (b, .missing)
    | some l => ({ b with links := b.links.push { journal := l.journal } }, .connected b.links.next)

def openStatement (b : Bench) (link : Nat) (call : OpenCall) : Bench × Reply :=
  match b.wire? link with
  | none => (b, .missing)
  | some w =>
    match w.openStatement call with
    | (w, .error e) => (b.setWire link w, .failed e)
    | (w, .ok statement) =>
      ({ b.setWire link w with opened := b.opened.push statement },
        .opened b.opened.next statement.label)

def perform (b : Bench) (link : Nat) (call : PlainCall) : Bench × Reply :=
  match b.wire? link with
  | none => (b, .missing)
  | some w =>
    match w.perform call with
    | (w, .error e) => (b.setWire link w, .failed e)
    | (w, .ok (some mode)) => (b.setWire link w, .mode mode)
    | (w, .ok none) => (b.setWire link w, .done)

def closeStatement (b : Bench) (statement : Nat) : Bench × Reply :=
  match b.opened.get? statement with
  | none => (b, .missing)
  | some s =>
    match b.journals.get? s.journal with
    | none => (b, .missing)
    | some j =>
      let (j, result) := j.closeStatement s.label
      let b := { b with journals := b.journals.modify s.journal fun _ => j }
      match result with
      | .ok () => (b, .done)
      | .error (.failed e) => (b, .failed e)
      | .error (.panicked label) => (b, .panicked label)

/-- Change the journal of a link by a line of script. -/
def script (b : Bench) (link : Nat) (change : Journal → Journal) : Bench × Reply :=
  match b.links.get? link with
  | none => (b, .missing)
  | some l => ({ b with journals := b.journals.modify l.journal change }, .scripted)

def step (b : Bench) : Op → Bench × Reply
  | .connect share => b.connect share
  | .openStatement link call => b.openStatement link call
  | .perform link call => b.perform link call
  | .closeStatement statement => b.closeStatement statement
  | .failNext link e => b.script link (·.failNext e)
  | .failClose link label e => b.script link (·.failClose label e)
  | .panicOnClose link label => b.script link (·.panicOnClose label)
  | .readJournal link =>
    match b.journalOf? link with
    | none => (b, .missing)
    | some j => (b, .journal j)

/-- The journals of all links, in the order of the links. -/
def linkJournals (b : Bench) : List Journal :=
  b.links.toList.filterMap fun l => b.journals.get? l.journal

end Bench

end ConnLease.Driver
