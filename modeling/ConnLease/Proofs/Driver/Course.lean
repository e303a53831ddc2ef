import ConnLease.Driver.Bench

/-!
# One operation on a scripted driver

Every operation on the bench goes one of a few ways (`Course`): it names nothing, it is refused, it
succeeds, or it is a line of script. What each leaves is read off once: in the journal that it goes
to (`journalAt_step`), in the links (`standing_step`) and in the statements (`get?_opened_step`).
-/

namespace ConnLease.Driver

/-! ## Operations -/

/-- Calls on a connection, as opposed to lines of script and closes of statements. -/
def Bench.Op.isCall : Bench.Op → Bool
  | .openStatement .. | .perform .. => true
  | _ => false

/-- The error that an operation scripts for the next call. -/
def Bench.Op.nextError? : Bench.Op → Option DriverError
  | .failNext _ e => some e
  | _ => none

/-- The label whose close an operation lets fail, with the error. -/
def Bench.Op.closeError? : Bench.Op → Option (String × DriverError)
  | .failClose _ label e => some (label, e)
  | _ => none

/-- The label whose close an operation lets panic. -/
def Bench.Op.panicLabel? : Bench.Op → Option String
  | .panicOnClose _ label => some label
  | _ => none

namespace Bench

/-- The journal that an operation goes to: that of its link, or that of its statement. -/
def target? (b : Bench) : Op → Option Nat
  | .connect _ => none
  | .closeStatement s => (b.opened.get? s).map (·.journal)
  | .openStatement link _ | .perform link _ | .failNext link _ | .failClose link _ _
  | .panicOnClose link _ | .readJournal link => (b.links.get? link).map (·.journal)

/-- The mode that an operation sets on a link, if it succeeds in it. -/
def modeSet? (b : Bench) (link : Nat) (op : Op) : Option Bool :=
  match op, (b.step op).2 with
  | .perform k (.setAutoCommit enabled), .done => if k = link then some enabled else none
  | _, _ => none

/-- Whether an operation succeeds in creating a plain statement on a link. -/
def creates (b : Bench) (link : Nat) (op : Op) : Bool :=
  match op, (b.step op).2 with
  | .openStatement k (.create _), .opened .. => decide (k = link)
  | _, _ => false

/-- The statement that an operation opens at the driver, with its number. -/
structure Opens (b : Bench) (op : Op) (s : Nat) (statement : Statement) : Prop where
  target : b.target? op = some statement.journal
  reply : (b.step op).2 = .opened s statement.label

/-- What closing a statement came to: its label, and whether it was closed. A panic comes to
nothing. -/
def attempt? (b : Bench) (op : Op) : Option (String × Bool) :=
  match op, (b.step op).2 with
  | .closeStatement s, .done => (b.opened.get? s).map (·.label, true)
  | .closeStatement s, .failed _ => (b.opened.get? s).map (·.label, false)
  | _, _ => none

/-- The event that an operation leaves, by what it is and how it is answered. -/
def event? (b : Bench) (op : Op) : Option Event :=
  match op, (b.step op).2 with
  | .openStatement _ call, .opened _ label => some (call.event label)
  | .perform _ call, .done => call.event?
  | .closeStatement s, .done => (b.opened.get? s).map (.statementClosed ·.label)
  | .closeStatement s, .failed _ => (b.opened.get? s).map (.statementCloseFailed ·.label)
  | _, _ => none

/-! ## One operation -/

/-- The journal with number `j`; one that does not exist is blank. -/
def journalAt (b : Bench) (j : Nat) : Journal := (b.journals.get? j).getD {}

/-- The auto-commit mode of a link, and how many plain statements it has numbered. A link that does
not exist stands like a new one. -/
def standing (b : Bench) (link : Nat) : Bool × UInt32 :=
  ((b.links.get? link).map fun l => (l.autoCommit, l.plainCount)).getD (true, 0)

/-- The journals of all links and of all statements exist. -/
structure Sound (b : Bench) : Prop where
  links : ∀ k l, b.links.get? k = some l → (b.journals.get? l.journal).isSome = true
  opened : ∀ s st, b.opened.get? s = some st → (b.journals.get? st.journal).isSome = true

/-- What a successful call makes of its link. -/
def called (call : PlainCall) (l : Link) : Link :=
  match call with
  | .setAutoCommit enabled => { l with autoCommit := enabled }
  | _ => l

section Equations

variable {b : Bench} {link : Nat} {l : Link} {journal : Journal} {s : Nat} {st : Statement}

theorem wire?_eq (hl : b.links.get? link = some l) (hj : b.journals.get? l.journal = some journal) :
    b.wire? link = some ⟨l, journal⟩ := by
  simp [wire?, hl, hj]

theorem setWire_self (hl : b.links.get? link = some l) (j : Journal) :
    b.setWire link ⟨l, j⟩ = { b with journals := b.journals.modify l.journal fun _ => j } := by
  unfold setWire
  rw [Roster.modify_of_some hl rfl]

theorem step_openStatement_of_error (hl : b.links.get? link = some l)
    (hj : b.journals.get? l.journal = some journal) {e : DriverError}
    (he : journal.nextError = some e) (call : OpenCall) :
    b.step (.openStatement link call) =
      ({ b with
          journals := b.journals.modify l.journal fun _ => { journal with nextError := none } },
        .failed e) := by
  simp only [step, openStatement, wire?_eq hl hj, Wire.openStatement, Journal.takeNextError, he]
  rw [setWire_self hl]

theorem step_openStatement_of_none (hl : b.links.get? link = some l)
    (hj : b.journals.get? l.journal = some journal) (hn : journal.nextError = none)
    (call : OpenCall) :
    b.step (.openStatement link call) =
      ({ b with
          journals := b.journals.modify l.journal fun _ =>
            journal.record (call.event (call.label l))
          links := b.links.modify link fun _ =>
            { l with plainCount := l.plainCount + call.sql?.isNone.toUInt32 }
          opened := b.opened.push ⟨call.label l, l.journal⟩ },
        .opened b.opened.next (call.label l)) := by
  have hquiet : { journal with nextError := none } = journal := by rw [← hn]
  have hcount : (if call.sql?.isNone then l.plainCount + 1 else l.plainCount) =
      l.plainCount + call.sql?.isNone.toUInt32 := by
    cases call.sql?.isNone <;> simp [Bool.toUInt32]
  simp only [step, openStatement, wire?_eq hl hj, Wire.openStatement, Journal.takeNextError, hn,
    setWire, hcount, hquiet]

theorem step_perform_of_error (hl : b.links.get? link = some l)
    (hj : b.journals.get? l.journal = some journal) {e : DriverError}
    (he : journal.nextError = some e) (call : PlainCall) :
    b.step (.perform link call) =
      ({ b with
          journals := b.journals.modify l.journal fun _ => { journal with nextError := none } },
        .failed e) := by
  simp only [step, perform, wire?_eq hl hj, Wire.perform, Journal.takeNextError, he]
  rw [setWire_self hl]

/-- Reading the mode does nothing at all. -/
theorem step_autoCommit_of_none (hl : b.links.get? link = some l)
    (hj : b.journals.get? l.journal = some journal) (hn : journal.nextError = none) :
    b.step (.perform link .autoCommit) = (b, .mode l.autoCommit) := by
  have hquiet : { journal with nextError := none } = journal := by rw [← hn]
  simp only [step, perform, wire?_eq hl hj, Wire.perform, Journal.takeNextError, hn,
    PlainCall.event?, hquiet]
  rw [setWire_self hl, Roster.modify_of_some hj rfl]

theorem step_perform_of_none (hl : b.links.get? link = some l)
    (hj : b.journals.get? l.journal = some journal) (hn : journal.nextError = none)
    {call : PlainCall} {event : Event} (hevent : call.event? = some event) :
    b.step (.perform link call) =
      ({ b with
          journals := b.journals.modify l.journal fun _ => journal.record event
          links := b.links.modify link fun _ => called call l },
        .done) := by
  have hquiet : { journal with nextError := none } = journal := by rw [← hn]
  simp only [step, perform, wire?_eq hl hj, Wire.perform, Journal.takeNextError, hn, hevent, hquiet]
  cases call with
  | autoCommit => cases hevent
  | setAutoCommit enabled | commit | rollback | close => rfl

theorem step_script (hl : b.links.get? link = some l) (change : Journal → Journal) :
    b.script link change =
      ({ b with journals := b.journals.modify l.journal change }, .scripted) := by
  simp only [script, hl]

theorem step_closeStatement_of_panics (hs : b.opened.get? s = some st)
    (hj : b.journals.get? st.journal = some journal) (hp : st.label ∈ journal.panics) :
    b.step (.closeStatement s) = (b, .panicked st.label) := by
  simp only [step, closeStatement, hs, hj, Journal.closeStatement, List.contains_eq_mem, hp,
    decide_true, if_true]
  rw [Roster.modify_of_some hj rfl]

theorem step_closeStatement_of_error (hs : b.opened.get? s = some st)
    (hj : b.journals.get? st.journal = some journal) (hp : st.label ∉ journal.panics)
    {e : DriverError} (he : journal.closeError? st.label = some e) :
    b.step (.closeStatement s) =
      ({ b with
          journals := b.journals.modify st.journal fun _ =>
            journal.record (.statementCloseFailed st.label) },
        .failed e) := by
  simp [step, closeStatement, hs, hj, Journal.closeStatement, hp, he]

theorem step_closeStatement_of_none (hs : b.opened.get? s = some st)
    (hj : b.journals.get? st.journal = some journal) (hp : st.label ∉ journal.panics)
    (he : journal.closeError? st.label = none) :
    b.step (.closeStatement s) =
      ({ b with
          journals := b.journals.modify st.journal fun _ =>
            journal.record (.statementClosed st.label) },
        .done) := by
  simp [step, closeStatement, hs, hj, Journal.closeStatement, hp, he]

end Equations

/-- What a line of script makes of a journal. -/
def scriptedInto (op : Op) (journal : Journal) : Journal :=
  { journal with
    nextError := op.nextError?.or journal.nextError
    closeErrors := op.closeError?.toList ++ journal.closeErrors
    panics := op.panicLabel?.toList ++ journal.panics }

/-- The ways in which an operation can go. -/
inductive Course (b : Bench) : Op → Bench × Reply → Prop where
  | missing {op : Op} (ht : b.target? op = none) : Course b op (b, .missing)
  | connected : Course b (.connect none)
      ({ b with
          journals := b.journals.push {}
          links := b.links.push { journal := b.journals.next } }, .connected b.links.next)
  | shared {other : Nat} {l : Link} (hl : b.links.get? other = some l) :
      Course b (.connect (some other))
        ({ b with links := b.links.push { journal := l.journal } }, .connected b.links.next)
  | refused {op : Op} {j : Nat} {journal : Journal} {e : DriverError} (hc : op.isCall = true)
      (ht : b.target? op = some j) (hj : b.journals.get? j = some journal)
      (he : journal.nextError = some e) :
      Course b op
        ({ b with journals := b.journals.modify j fun _ => { journal with nextError := none } },
          .failed e)
  | opened {link : Nat} {l : Link} {journal : Journal} {call : OpenCall}
      (hl : b.links.get? link = some l) (hj : b.journals.get? l.journal = some journal)
      (hn : journal.nextError = none) :
      Course b (.openStatement link call)
        ({ b with
            journals := b.journals.modify l.journal fun _ =>
              journal.record (call.event (call.label l))
            links := b.links.modify link fun _ =>
              { l with plainCount := l.plainCount + call.sql?.isNone.toUInt32 }
            opened := b.opened.push ⟨call.label l, l.journal⟩ },
          .opened b.opened.next (call.label l))
  | modeRead {link : Nat} {l : Link} {journal : Journal} (hl : b.links.get? link = some l)
      (hj : b.journals.get? l.journal = some journal) (hn : journal.nextError = none) :
      Course b (.perform link .autoCommit) (b, .mode l.autoCommit)
  | performed {link : Nat} {l : Link} {journal : Journal} {call : PlainCall} {event : Event}
      (hl : b.links.get? link = some l) (hj : b.journals.get? l.journal = some journal)
      (hn : journal.nextError = none) (hevent : call.event? = some event) :
      Course b (.perform link call)
        ({ b with
            journals := b.journals.modify l.journal fun _ => journal.record event
            links := b.links.modify link fun _ => called call l }, .done)
  | panicked {s : Nat} {st : Statement} {journal : Journal} (hs : b.opened.get? s = some st)
      (hj : b.journals.get? st.journal = some journal) (hp : st.label ∈ journal.panics) :
      Course b (.closeStatement s) (b, .panicked st.label)
  | closeFailed {s : Nat} {st : Statement} {journal : Journal} {e : DriverError}
      (hs : b.opened.get? s = some st) (hj : b.journals.get? st.journal = some journal)
      (hp : st.label ∉ journal.panics) (he : journal.closeError? st.label = some e) :
      Course b (.closeStatement s)
        ({ b with
            journals := b.journals.modify st.journal fun _ =>
              journal.record (.statementCloseFailed st.label) }, .failed e)
  | closed {s : Nat} {st : Statement} {journal : Journal} (hs : b.opened.get? s = some st)
      (hj : b.journals.get? st.journal = some journal) (hp : st.label ∉ journal.panics)
      (he : journal.closeError? st.label = none) :
      Course b (.closeStatement s)
        ({ b with
            journals := b.journals.modify st.journal fun _ =>
              journal.record (.statementClosed st.label) }, .done)
  | scripted {op : Op} {j : Nat} {journal : Journal} (hq : op.isCall = false)
      (ht : b.target? op = some j) (hj : b.journals.get? j = some journal) :
      Course b op
        ({ b with journals := b.journals.modify j fun _ => scriptedInto op journal }, .scripted)
  | journalRead {link : Nat} {l : Link} {journal : Journal} (hl : b.links.get? link = some l)
      (hj : b.journals.get? l.journal = some journal) :
      Course b (.readJournal link) (b, .journal journal)

theorem course_openStatement {b : Bench} (hb : b.Sound) (link : Nat) (call : OpenCall) :
    b.Course (.openStatement link call) (b.step (.openStatement link call)) := by
  cases hl : b.links.get? link with
  | none =>
    have hstep : b.step (.openStatement link call) = (b, .missing) := by
      simp [step, openStatement, wire?, hl]
    rw [hstep]
    exact .missing (by simp [target?, hl])
  | some l =>
    obtain ⟨journal, hj⟩ := Option.isSome_iff_exists.1 (hb.links link l hl)
    cases hn : journal.nextError with
    | some e =>
      rw [step_openStatement_of_error hl hj hn]
      exact .refused rfl (by simp [target?, hl]) hj hn
    | none =>
      rw [step_openStatement_of_none hl hj hn]
      exact .opened hl hj hn

theorem course_perform {b : Bench} (hb : b.Sound) (link : Nat) (call : PlainCall) :
    b.Course (.perform link call) (b.step (.perform link call)) := by
  cases hl : b.links.get? link with
  | none =>
    have hstep : b.step (.perform link call) = (b, .missing) := by simp [step, perform, wire?, hl]
    rw [hstep]
    exact .missing (by simp [target?, hl])
  | some l =>
    obtain ⟨journal, hj⟩ := Option.isSome_iff_exists.1 (hb.links link l hl)
    cases hn : journal.nextError with
    | some e =>
      rw [step_perform_of_error hl hj hn]
      exact .refused rfl (by simp [target?, hl]) hj hn
    | none =>
      cases hevent : call.event? with
      | some event =>
        rw [step_perform_of_none hl hj hn hevent]
        exact .performed hl hj hn hevent
      | none =>
        obtain rfl : call = .autoCommit := by
          cases call with
          | autoCommit => rfl
          | setAutoCommit enabled | commit | rollback | close => cases hevent
        rw [step_autoCommit_of_none hl hj hn]
        exact .modeRead hl hj hn

theorem course_closeStatement {b : Bench} (hb : b.Sound) (s : Nat) :
    b.Course (.closeStatement s) (b.step (.closeStatement s)) := by
  cases hs : b.opened.get? s with
  | none =>
    have hstep : b.step (.closeStatement s) = (b, .missing) := by simp [step, closeStatement, hs]
    rw [hstep]
    exact .missing (by simp [target?, hs])
  | some st =>
    obtain ⟨journal, hj⟩ := Option.isSome_iff_exists.1 (hb.opened s st hs)
    by_cases hp : st.label ∈ journal.panics
    · rw [step_closeStatement_of_panics hs hj hp]
      exact .panicked hs hj hp
    · cases he : journal.closeError? st.label with
      | some e =>
        rw [step_closeStatement_of_error hs hj hp he]
        exact .closeFailed hs hj hp he
      | none =>
        rw [step_closeStatement_of_none hs hj hp he]
        exact .closed hs hj hp he

/-- A line of script that changes the journal of its link goes the way of all scripts. -/
theorem course_script {b : Bench} (hb : b.Sound) {op : Op} {link : Nat}
    {change : Journal → Journal} (hstep : b.step op = b.script link change)
    (hq : op.isCall = false) (ht : b.target? op = (b.links.get? link).map (·.journal))
    (hchange : ∀ journal, change journal = scriptedInto op journal) : b.Course op (b.step op) := by
  rw [hstep]
  cases hl : b.links.get? link with
  | none =>
    have hsame : b.script link change = (b, .missing) := by simp [script, hl]
    rw [hsame]
    exact .missing (by rw [ht, hl]; rfl)
  | some l =>
    obtain ⟨journal, hj⟩ := Option.isSome_iff_exists.1 (hb.links link l hl)
    rw [step_script hl, Roster.modify_congr_of_some hj (g := fun _ => scriptedInto op journal)
      (hchange journal)]
    exact .scripted hq (by rw [ht, hl]; rfl) hj

theorem course {b : Bench} (hb : b.Sound) (op : Op) : b.Course op (b.step op) := by
  cases op with
  | connect share =>
    cases share with
    | none => exact .connected
    | some other =>
      cases hl : b.links.get? other with
      | none =>
        have hstep : b.step (.connect (some other)) = (b, .missing) := by simp [step, connect, hl]
        rw [hstep]
        exact .missing rfl
      | some l =>
        have hstep : b.step (.connect (some other)) =
            ({ b with links := b.links.push { journal := l.journal } },
              .connected b.links.next) := by
          simp [step, connect, hl]
        rw [hstep]
        exact .shared hl
  | openStatement link call => exact course_openStatement hb link call
  | perform link call => exact course_perform hb link call
  | closeStatement s => exact course_closeStatement hb s
  | failNext link e => exact course_script hb rfl rfl rfl fun _ => rfl
  | failClose link label e => exact course_script hb rfl rfl rfl fun _ => rfl
  | panicOnClose link label => exact course_script hb rfl rfl rfl fun _ => rfl
  | readJournal link =>
    cases hl : b.links.get? link with
    | none =>
      have hstep : b.step (.readJournal link) = (b, .missing) := by simp [step, journalOf?, hl]
      rw [hstep]
      exact .missing (by simp [target?, hl])
    | some l =>
      obtain ⟨journal, hj⟩ := Option.isSome_iff_exists.1 (hb.links link l hl)
      have hstep : b.step (.readJournal link) = (b, .journal journal) := by
        simp [step, journalOf?, hl, hj]
      rw [hstep]
      exact .journalRead hl hj

/-! ## What an operation leaves -/

theorem isSome_journals_step {b : Bench} (hb : b.Sound) (op : Op) {j : Nat}
    (h : (b.journals.get? j).isSome = true) : ((b.step op).1.journals.get? j).isSome = true := by
  have hmodify : ∀ (k : Nat) (journal : Journal),
      ((b.journals.modify k fun _ => journal).get? j).isSome = true := by
    intro k journal
    rw [Roster.get?_modify]
    split
    · rw [Option.isSome_map, h]
    · exact h
  have hcourse := b.course hb op
  generalize b.step op = r at hcourse
  cases hcourse with
  | missing | modeRead | panicked | journalRead | shared => exact h
  | connected =>
    rw [Roster.get?_push]
    split
    · rfl
    · exact h
  | _ => exact hmodify _ _

theorem sound_step {b : Bench} (hb : b.Sound) (op : Op) : (b.step op).1.Sound := by
  have hkept : ∀ j, (b.journals.get? j).isSome = true →
      ((b.step op).1.journals.get? j).isSome = true := fun j => isSome_journals_step hb op
  have hcourse := b.course hb op
  generalize b.step op = r at hcourse hkept
  -- Only connecting and opening add something whose journal has to be looked up.
  cases hcourse with
  | connected =>
    refine ⟨fun k l hl => ?_, fun s st hs => hkept _ (hb.opened s st hs)⟩
    rw [Roster.get?_push] at hl
    split at hl
    · cases hl
      simp
    · exact hkept _ (hb.links k l hl)
  | @shared other found hfound =>
    refine ⟨fun k l hl => ?_, fun s st hs => hkept _ (hb.opened s st hs)⟩
    rw [Roster.get?_push] at hl
    split at hl
    · cases hl
      exact hkept _ (hb.links other found hfound)
    · exact hkept _ (hb.links k l hl)
  | @opened link found journal call hfound =>
    refine ⟨fun k l hl => ?_, fun s st hs => ?_⟩
    · rw [Roster.get?_modify] at hl
      split at hl
      · obtain ⟨old, -, rfl⟩ := Option.map_eq_some_iff.1 hl
        exact hkept _ (hb.links link found hfound)
      · exact hkept _ (hb.links k l hl)
    · rw [Roster.get?_push] at hs
      split at hs
      · cases hs
        exact hkept _ (hb.links link found hfound)
      · exact hkept _ (hb.opened s st hs)
  | @performed link found journal call event hfound =>
    refine ⟨fun k l hl => ?_, fun s st hs => hkept _ (hb.opened s st hs)⟩
    rw [Roster.get?_modify] at hl
    split at hl
    · obtain ⟨old, -, rfl⟩ := Option.map_eq_some_iff.1 hl
      have hsame : (called call found).journal = found.journal := by cases call <;> rfl
      rw [hsame]
      exact hkept _ (hb.links link found hfound)
    · exact hkept _ (hb.links k l hl)
  | _ => exact ⟨fun k l hl => hkept _ (hb.links k l hl), fun s st hs => hkept _ (hb.opened s st hs)⟩

/-- What an operation leaves of the journal that it goes to. -/
def leaves (b : Bench) (op : Op) (journal : Journal) : Journal where
  events := journal.events ++ (b.event? op).toList
  nextError := if op.isCall then none else op.nextError?.or journal.nextError
  closeErrors := op.closeError?.toList ++ journal.closeErrors
  panics := op.panicLabel?.toList ++ journal.panics

theorem leaves_of_call {b : Bench} {op : Op} (hc : op.isCall = true) (journal : Journal) :
    b.leaves op journal =
      { journal with events := journal.events ++ (b.event? op).toList, nextError := none } := by
  cases op with
  | openStatement link call | perform link call => rfl
  | _ => cases hc

theorem leaves_of_script {b : Bench} {op : Op} (hq : op.isCall = false)
    (hevent : b.event? op = none) (journal : Journal) :
    b.leaves op journal = scriptedInto op journal := by
  simp [leaves, scriptedInto, hq, hevent]

theorem leaves_closeStatement (b : Bench) (s : Nat) (journal : Journal) :
    b.leaves (.closeStatement s) journal =
      { journal with
        events := journal.events ++ (b.event? (.closeStatement s)).toList } := rfl

theorem journalAt_of_some {b : Bench} {j : Nat} {journal : Journal}
    (h : b.journals.get? j = some journal) : b.journalAt j = journal := by
  rw [journalAt, h, Option.getD_some]

section Leaving

variable {b : Bench} {op : Op} {j : Nat} {journal : Journal}
  (hj : b.journals.get? j = some journal) (ht : b.target? op = some j)
include hj ht

/-- Nothing is written, since the operation leaves its journal as it is. -/
theorem journalAt_of_leaves_self (hsame : b.leaves op journal = journal) (k : Nat) :
    b.journalAt k =
      if b.target? op = some k then b.leaves op (b.journalAt k) else b.journalAt k := by
  split
  · rename_i hk
    obtain rfl : j = k := Option.some.inj (ht.symm.trans hk)
    rw [journalAt_of_some hj, hsame]
  · rfl

/-- What the operation leaves is written to its journal. -/
theorem journalAt_of_leaves {new : Journal} (hnew : b.leaves op journal = new) (k : Nat) :
    ((b.journals.modify j fun _ => new).get? k).getD {} =
      if b.target? op = some k then b.leaves op (b.journalAt k) else b.journalAt k := by
  rw [Roster.get?_modify, ht]
  by_cases hk : k = j
  · subst hk
    rw [if_pos rfl, if_pos rfl, hj, journalAt_of_some hj, hnew]
    rfl
  · rw [if_neg hk, if_neg fun h => hk (Option.some.inj h).symm]
    rfl

end Leaving

/-- An operation changes the journal that it goes to, and no other. -/
theorem journalAt_step {b : Bench} (hb : b.Sound) (op : Op) (k : Nat) :
    (b.step op).1.journalAt k =
      if b.target? op = some k then b.leaves op (b.journalAt k) else b.journalAt k := by
  have hcourse := b.course hb op
  generalize hr : b.step op = r at hcourse ⊢
  cases hcourse with
  | missing ht => rw [if_neg (by rw [ht]; intro h; cases h)]
  | connected =>
    rw [if_neg (by intro h; cases h)]
    show ((b.journals.push {}).get? k).getD {} = (b.journals.get? k).getD {}
    rw [Roster.get?_push]
    split
    · rename_i hk
      rw [hk, Roster.get?_next]
      rfl
    · rfl
  | shared hl =>
    rw [if_neg (by intro h; cases h)]
    rfl
  | refused hc ht hj he =>
    have hevent : b.event? op = none := by
      cases op with
      | openStatement link call | perform link call => simp [event?, hr]
      | _ => cases hc
    refine journalAt_of_leaves hj ht ?_ k
    rw [leaves_of_call hc, hevent, Option.toList_none, List.append_nil]
  | opened hl hj hn =>
    refine journalAt_of_leaves hj (by simp [target?, hl]) ?_ k
    rw [leaves_of_call rfl]
    simp [event?, hr, Journal.record, hn]
  | modeRead hl hj hn =>
    refine journalAt_of_leaves_self hj (by simp [target?, hl]) ?_ k
    rw [leaves_of_call rfl, ← hn]
    simp [event?, hr]
  | performed hl hj hn hevent =>
    refine journalAt_of_leaves hj (by simp [target?, hl]) ?_ k
    rw [leaves_of_call rfl]
    simp [event?, hr, hevent, Journal.record, hn]
  | panicked hs hj hp =>
    refine journalAt_of_leaves_self hj (by simp [target?, hs]) ?_ k
    rw [leaves_closeStatement]
    simp [event?, hr]
  | closeFailed hs hj hp he | closed hs hj hp he =>
    refine journalAt_of_leaves hj (by simp [target?, hs]) ?_ k
    rw [leaves_closeStatement]
    simp [event?, hr, hs, Journal.record]
  | scripted hq ht hj =>
    refine journalAt_of_leaves hj ht (leaves_of_script hq ?_ _) k
    cases op <;> simp [event?, hr]
  | journalRead hl hj =>
    exact journalAt_of_leaves_self hj (by simp [target?, hl]) (leaves_of_script rfl rfl _) k

theorem standing_of_some {b : Bench} {k : Nat} {l : Link} (h : b.links.get? k = some l) :
    b.standing k = (l.autoCommit, l.plainCount) := by
  rw [standing, h]
  rfl

/-- The mode of a link is changed by setting it, its numbering goes on with each plain statement
that is created on it, and nothing else touches either. -/
theorem standing_step {b : Bench} (hb : b.Sound) (op : Op) (k : Nat) :
    (b.step op).1.standing k =
      ((b.modeSet? k op).getD (b.standing k).1, (b.standing k).2 + (b.creates k op).toUInt32) := by
  have hpush : ∀ j, (((b.links.push { journal := j }).get? k).map fun l =>
      (l.autoCommit, l.plainCount)).getD (true, 0) = b.standing k := by
    intro j
    rw [Roster.get?_push]
    split
    · rename_i hk
      simp [standing, hk]
    · rfl
  have hmodify : ∀ (link : Nat) (l : Link), k ≠ link →
      (((b.links.modify link fun _ => l).get? k).map fun l =>
        (l.autoCommit, l.plainCount)).getD (true, 0) = b.standing k := by
    intro link l hk
    rw [Roster.get?_modify_of_ne _ _ hk]
    rfl
  have hcourse := b.course hb op
  generalize hr : b.step op = r at hcourse ⊢
  cases hcourse with
  | missing ht => cases op <;> simp [modeSet?, creates, hr, Bool.toUInt32]
  | connected | shared hl =>
    refine (hpush _).trans ?_
    simp [modeSet?, creates, Bool.toUInt32]
  | refused hc ht hj he | scripted hq ht hj =>
    cases op <;> simp [modeSet?, creates, hr, standing, Bool.toUInt32]
  | @opened link l journal call hl hj hn =>
    by_cases hk : k = link
    · subst hk
      rw [standing_of_some hl]
      cases call <;> simp [standing, modeSet?, creates, hr, hl, OpenCall.sql?, Bool.toUInt32]
    · have hother : ¬ link = k := fun h => hk h.symm
      refine (hmodify link _ hk).trans ?_
      cases call <;> simp [modeSet?, creates, hr, hother, Bool.toUInt32]
  | @performed link l journal call event hl hj hn hevent =>
    by_cases hk : k = link
    · subst hk
      rw [standing_of_some hl]
      cases call <;> simp [standing, modeSet?, creates, hr, hl, called, Bool.toUInt32]
    · have hother : ¬ link = k := fun h => hk h.symm
      refine (hmodify link _ hk).trans ?_
      cases call <;> simp [modeSet?, creates, hr, hother, Bool.toUInt32]
  | _ => simp [modeSet?, creates, standing, Bool.toUInt32]

/-- Statements stay, and one comes with each opening that succeeds. -/
theorem get?_opened_step {b : Bench} (hb : b.Sound) (op : Op) (s : Nat) (st : Statement) :
    (b.step op).1.opened.get? s = some st ↔ b.opened.get? s = some st ∨ Opens b op s st := by
  have hother : (∀ label, (b.step op).2 ≠ .opened s label) → (b.step op).1.opened = b.opened →
      ((b.step op).1.opened.get? s = some st ↔ b.opened.get? s = some st ∨ Opens b op s st) := by
    intro hreply hsame
    rw [hsame]
    exact ⟨.inl, fun h => h.elim id fun ho => absurd ho.reply (hreply _)⟩
  have hcourse := b.course hb op
  generalize hr : b.step op = r at hcourse hother ⊢
  cases hcourse with
  | @opened link l journal call hl hj hn =>
    have htarget : b.target? (.openStatement link call) = some l.journal := by simp [target?, hl]
    simp only [Roster.get?_push]
    split
    · rename_i hs
      subst hs
      rw [Roster.get?_next]
      constructor
      · rintro ⟨⟩
        exact .inr ⟨htarget, by rw [hr]⟩
      · rintro (h | h)
        · cases h
        · have hreply := h.reply
          have hjournal := h.target
          rw [hr] at hreply
          rw [htarget] at hjournal
          cases st
          simp_all
    · rename_i hs
      refine ⟨.inl, fun h => h.elim id fun ho => ?_⟩
      have hreply := ho.reply
      rw [hr] at hreply
      exact absurd (Reply.opened.inj hreply).1.symm hs
  | _ => exact hother (fun label h => by cases h) rfl

/-! ## Events -/

/-- An operation adds events at the end of the journal `j`, and none to another. -/
def Adds (b : Bench) (op : Op) (j : Nat) (events : List Event) : Prop :=
  ∀ k, ((b.step op).1.journalAt k).events =
    (b.journalAt k).events ++ if k = j then events else []

theorem adds_event? {b : Bench} (hb : b.Sound) {op : Op} {j : Nat} (ht : b.target? op = some j) :
    b.Adds op j (b.event? op).toList := by
  intro k
  rw [journalAt_step hb, ht]
  by_cases hk : k = j
  · rw [if_pos (by rw [hk]), if_pos hk]
    rfl
  · rw [if_neg fun h => hk (Option.some.inj h).symm, if_neg hk, List.append_nil]

theorem events_step_of_none {b : Bench} (hb : b.Sound) {op : Op} (h : b.event? op = none)
    (k : Nat) :
    ((b.step op).1.journalAt k).events = (b.journalAt k).events := by
  rw [journalAt_step hb]
  split
  · rw [leaves, h]
    exact List.append_nil _
  · rfl

/-- Of what an operation leaves, only a close that came to something tells of a close. -/
theorem close_event? (b : Bench) (op : Op) :
    (b.event? op).bind Event.closeTried? = (b.attempt? op).map (·.1) ∧
      (b.event? op).bind Event.closed? = ((b.attempt? op).filter (·.2)).map (·.1) := by
  unfold event? attempt?
  cases op with
  | closeStatement s =>
    generalize (b.step (.closeStatement s)).2 = reply
    cases reply with
    | done | failed e =>
      dsimp only
      cases b.opened.get? s <;> exact ⟨rfl, rfl⟩
    | _ => exact ⟨rfl, rfl⟩
  | openStatement link call =>
    generalize (b.step (.openStatement link call)).2 = reply
    cases reply <;> cases call <;> exact ⟨rfl, rfl⟩
  | perform link call =>
    generalize (b.step (.perform link call)).2 = reply
    cases reply <;> cases call <;> exact ⟨rfl, rfl⟩
  | _ => exact ⟨rfl, rfl⟩

/-! ## Calls -/

/-- A call on a link is refused by the pending error of its journal, which is then gone, and by
nothing else. -/
theorem call_cases {b : Bench} (hb : b.Sound) {op : Op} {j : Nat} (hc : op.isCall = true)
    (ht : b.target? op = some j) :
    (∃ journal e, (b.journalAt j).nextError = some e ∧ b.step op =
      ({ b with journals := b.journals.modify j fun _ => journal }, .failed e)) ∨
      ((b.journalAt j).nextError = none ∧ ∀ e, (b.step op).2 ≠ .failed e) := by
  have htarget : ∀ {link l}, b.links.get? link = some l → b.target? op = (b.links.get? link).map
      (·.journal) → l.journal = j := by
    intro link l hl h
    rw [ht, hl] at h
    exact (Option.some.inj h).symm
  have hcourse := b.course hb op
  generalize b.step op = r at hcourse ⊢
  cases hcourse with
  | missing hm =>
    rw [hm] at ht
    cases ht
  | @refused _ _ journal e _ ht' hj he =>
    obtain rfl := Option.some.inj (ht'.symm.trans ht)
    exact .inl ⟨_, e, by rw [journalAt_of_some hj, he], rfl⟩
  | opened hl hj hn | modeRead hl hj hn | performed hl hj hn =>
    obtain rfl := htarget hl rfl
    exact .inr ⟨by rw [journalAt_of_some hj, hn], fun e h => by cases h⟩
  | scripted hq =>
    rw [hq] at hc
    cases hc
  | _ => cases hc

end Bench

end ConnLease.Driver
