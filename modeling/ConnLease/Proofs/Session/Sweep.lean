import Mathlib.Data.List.TakeWhile
import Mathlib.Data.List.Basic
import ConnLease.Proofs.Session.Fields

/-!
# The sweep over the statements of a connection

What a sweep over any list of statements does, read off the session before it. Its work is the list
of the statements that are still open, each at its first place in the list. It completes them one
after the other, past every failure, up to the first one whose close panics: that one counts as
closed and leaves no event, and the sweep does not reach the statements behind it.

Main statement: `swept_sweep`. Nothing is assumed about the list or the session: the list may repeat
statements, name closed ones and statements of other connections.
-/

namespace ConnLease

/-! ## The script of a close -/

namespace Driver.Journal

/-- How closing a statement with this label goes wrong, if it does. A panic comes before an
error. -/
def closeFault? (j : Journal) (label : String) : Option CloseFault :=
  if j.panics.contains label then some (.panicked label) else (j.closeError? label).map .failed

/-- The event that closing a statement with this label leaves; a panic leaves none. -/
def closeEvent? (j : Journal) (label : String) : Option Event :=
  match j.closeFault? label with
  | none => some (.statementClosed label)
  | some (.failed _) => some (.statementCloseFailed label)
  | some (.panicked _) => none

theorem closeStatement_fst (j : Journal) (label : String) :
    (j.closeStatement label).1 = { j with events := j.events ++ (j.closeEvent? label).toList } := by
  unfold closeStatement closeEvent? closeFault?
  split
  · simp
  · cases j.closeError? label <;> simp [record]

theorem closeStatement_snd (j : Journal) (label : String) :
    (j.closeStatement label).2 =
      match j.closeFault? label with
      | none => .ok ()
      | some fault => .error fault := by
  unfold closeStatement closeFault?
  split
  · rfl
  · cases j.closeError? label <;> rfl

theorem closeFault?_append (j : Journal) (events : List Event) :
    { j with events := j.events ++ events }.closeFault? = j.closeFault? := rfl

end Driver.Journal

namespace Session

/-- What the driver knows of a statement. -/
def driverOf? (w : Session) (s : Nat) : Option Driver.Statement :=
  (w.statements.get? s).map (·.driver)

def isOpenStatement (w : Session) (s : Nat) : Bool :=
  (w.statements.get? s).any (!·.closed)

/-- How closing a statement at the driver would go wrong, if it did. -/
def closeFault? (w : Session) (s : Nat) : Option Driver.CloseFault :=
  (w.driverOf? s).bind fun d => ((w.journals.get? d.journal).getD {}).closeFault? d.label

def panicsOnClose (w : Session) (s : Nat) : Bool :=
  match w.closeFault? s with
  | some (.panicked _) => true
  | _ => false

def closeError? (w : Session) (s : Nat) : Option DriverError :=
  match w.closeFault? s with
  | some (.failed e) => some e
  | _ => none

/-- The event that closing a statement leaves in journal `j`. -/
def closeEventIn? (w : Session) (j s : Nat) : Option Driver.Event :=
  (w.driverOf? s).bind fun d =>
    if d.journal = j then ((w.journals.get? j).getD {}).closeEvent? d.label else none

/-! ## The work of a sweep -/

/-- The statements that a sweep over a list has to close: those still open, each at its first place
in the list. -/
def due (w : Session) (l : List Nat) : List Nat := l.eraseDups.filter w.isOpenStatement

/-- The statements whose close a sweep completes, with or without success. -/
def completed (w : Session) (l : List Nat) : List Nat :=
  (w.due l).takeWhile (!w.panicsOnClose ·)

/-- The statement whose panic ends a sweep. -/
def unwinding? (w : Session) (l : List Nat) : Option Nat := (w.due l).find? w.panicsOnClose

/-- The statements that a sweep marks as closed. -/
def reached (w : Session) (l : List Nat) : List Nat :=
  w.completed l ++ (w.unwinding? l).toList

/-- The failures of a sweep in the order in which they happen. -/
def failures (w : Session) (l : List Nat) : List (Nat × DriverError) :=
  (w.completed l).filterMap fun s => (w.closeError? s).map (s, ·)

/-- Whether a failure of a sweep is fatal for the connection that the sweep belongs to. -/
def breaks (conn : Connection) (failures : List (Nat × DriverError)) : Bool :=
  failures.any fun f => (conn.classifier.judge f.2).isFatal

/-- How a sweep ends. -/
def sweepResult (w : Session) (l : List Nat) : SweepResult :=
  match w.unwinding? l with
  | some s => .panicked (((w.driverOf? s).map (·.label)).getD "")
  | none => .finished (w.failures l).head?

/-- `w'` is `w` after a sweep over the list `l` on behalf of the connection `c`. -/
structure Swept (w : Session) (c : Nat) (l : List Nat) (w' : Session) : Prop where
  statements : ∀ s, w'.statements.get? s = (w.statements.get? s).map fun statement =>
    { statement with closed := statement.closed || (w.reached l).contains s }
  journals : ∀ j, w'.journals.get? j = (w.journals.get? j).map fun journal =>
    { journal with events := journal.events ++ (w.completed l).filterMap (w.closeEventIn? j) }
  connections : w'.connections = w.connections.modify c fun conn =>
    { conn with broken := conn.broken || breaks conn (w.failures l) }
  watch : w'.watch = w.watch
  pools : w'.pools = w.pools

/-! ## Closing one statement -/

theorem closeAtDriver_of_not_open {w : Session} {s : Nat} (h : w.isOpenStatement s = false) :
    w.closeAtDriver s = (w, .alreadyClosed) := by
  unfold isOpenStatement at h
  unfold closeAtDriver
  cases hs : w.statements.get? s with
  | none => rfl
  | some statement =>
    have hc : statement.closed = true := by simpa [hs] using h
    simp [hc]

/-- Closing an open statement: its flag is set, and its journal records what the script says. -/
theorem closeAtDriver_of_open {w : Session} {s : Nat} {statement : Statement}
    (hs : w.statements.get? s = some statement) (ho : statement.closed = false) :
    w.closeAtDriver s =
      (let j := (w.journals.get? statement.driver.journal).getD {}
       ((w.onStatement s fun statement => { statement with closed := true }).onJournal
          statement.driver.journal fun _ => (j.closeStatement statement.driver.label).1,
        match j.closeFault? statement.driver.label with
        | none => .closed
        | some (.failed e) => .failed e
        | some (.panicked label) => .panicked label)) := by
  have hsnd := Driver.Journal.closeStatement_snd
    ((w.journals.get? statement.driver.journal).getD {}) statement.driver.label
  unfold closeAtDriver
  cases hf : ((w.journals.get? statement.driver.journal).getD {}).closeFault?
      statement.driver.label with
  | none =>
    rw [hf] at hsnd
    simp [hs, ho, hsnd, hf]
  | some fault =>
    rw [hf] at hsnd
    cases fault <;> simp [hs, ho, hsnd, hf]

@[simp]
theorem closeAtDriver_fields (w : Session) (s : Nat) :
    (w.closeAtDriver s).1.watch = w.watch ∧ (w.closeAtDriver s).1.pools = w.pools ∧
      (w.closeAtDriver s).1.connections = w.connections ∧
      (w.closeAtDriver s).1.log = w.log := by
  cases hs : w.statements.get? s with
  | none => simp [closeAtDriver, hs]
  | some statement =>
    cases ho : statement.closed with
    | true => simp [closeAtDriver, hs, ho]
    | false => simp [closeAtDriver_of_open hs ho]

theorem closeAtDriver_statements (w : Session) (s : Nat) :
    (w.closeAtDriver s).1.statements =
      w.statements.modify s fun statement => { statement with closed := true } := by
  cases hs : w.statements.get? s with
  | none =>
    rw [closeAtDriver_of_not_open (by simp [isOpenStatement, hs])]
    exact (Roster.modify_of_none hs _).symm
  | some statement =>
    cases ho : statement.closed with
    | true =>
      rw [closeAtDriver_of_not_open (by simp [isOpenStatement, hs, ho])]
      exact (Roster.modify_of_some hs (by rw [← ho])).symm
    | false => simp [closeAtDriver_of_open hs ho]

theorem closeAtDriver_journals {w : Session} {s : Nat} (h : w.isOpenStatement s = true) (j : Nat) :
    (w.closeAtDriver s).1.journals.get? j = (w.journals.get? j).map fun journal =>
      { journal with events := journal.events ++ (w.closeEventIn? j s).toList } := by
  unfold isOpenStatement at h
  cases hs : w.statements.get? s with
  | none => simp [hs] at h
  | some statement =>
    have ho : statement.closed = false := by simpa [hs] using h
    rw [closeAtDriver_of_open hs ho]
    simp only [onJournal_fields, onStatement_fields, Roster.get?_modify, closeEventIn?, driverOf?,
      hs, Option.map_some, Option.bind_some, Driver.Journal.closeStatement_fst]
    by_cases hj : j = statement.driver.journal
    · subst hj
      cases hg : w.journals.get? statement.driver.journal <;> simp
    · have hj' : statement.driver.journal ≠ j := fun e => hj e.symm
      cases w.journals.get? j <;> simp [hj, hj']

theorem closeAtDriver_snd {w : Session} {s : Nat} (h : w.isOpenStatement s = true) :
    (w.closeAtDriver s).2 =
      match w.closeFault? s with
      | none => .closed
      | some (.failed e) => .failed e
      | some (.panicked label) => .panicked label := by
  unfold isOpenStatement at h
  cases hs : w.statements.get? s with
  | none => simp [hs] at h
  | some statement =>
    have ho : statement.closed = false := by simpa [hs] using h
    rw [closeAtDriver_of_open hs ho]
    simp [closeFault?, driverOf?, hs]

/-! ## A close leaves the script as it is -/

/-- Closing any statement goes the same way in both sessions. -/
structure SameScript (w w' : Session) : Prop where
  drivers : w'.driverOf? = w.driverOf?
  faults : ∀ j, ((w'.journals.get? j).getD {}).closeFault? =
    ((w.journals.get? j).getD {}).closeFault?

namespace SameScript

variable {w w' : Session}

theorem closeFault? (h : SameScript w w') : w'.closeFault? = w.closeFault? := by
  funext s
  unfold Session.closeFault?
  rw [h.drivers]
  cases w.driverOf? s with
  | none => rfl
  | some d => simp only [Option.bind_some, h.faults]

theorem panicsOnClose (h : SameScript w w') : w'.panicsOnClose = w.panicsOnClose := by
  funext s
  unfold Session.panicsOnClose
  rw [h.closeFault?]

theorem closeError? (h : SameScript w w') : w'.closeError? = w.closeError? := by
  funext s
  unfold Session.closeError?
  rw [h.closeFault?]

theorem closeEventIn? (h : SameScript w w') (j : Nat) : w'.closeEventIn? j = w.closeEventIn? j := by
  funext s
  unfold Session.closeEventIn? Driver.Journal.closeEvent?
  rw [h.drivers, h.faults]

theorem of_writes (hs : ∀ s, ∃ f : Bool → Bool, w'.statements.get? s =
      (w.statements.get? s).map fun statement => { statement with closed := f statement.closed })
    (hj : ∀ j, ∃ events, w'.journals.get? j = (w.journals.get? j).map fun journal =>
      { journal with events := journal.events ++ events }) : SameScript w w' where
  drivers := by
    funext s
    obtain ⟨f, hf⟩ := hs s
    unfold driverOf?
    rw [hf]
    cases w.statements.get? s <;> rfl
  faults := by
    intro j
    obtain ⟨events, he⟩ := hj j
    rw [he]
    cases w.journals.get? j with
    | none => rfl
    | some journal => exact Driver.Journal.closeFault?_append journal events

end SameScript

/-! ## The work of a sweep after its first statement -/

theorem eraseDups_filter (p : Nat → Bool) :
    ∀ l : List Nat, (l.filter p).eraseDups = l.eraseDups.filter p
  | [] => rfl
  | a :: l => by
    have hlt : (l.filter fun b => !b == a).length < l.length + 1 :=
      Nat.lt_succ_of_le (List.length_filter_le _ _)
    have hrec := eraseDups_filter p (l.filter fun b => !b == a)
    rw [List.eraseDups_cons]
    by_cases hp : p a
    · rw [List.filter_cons_of_pos hp, List.filter_cons_of_pos hp, List.eraseDups_cons, ← hrec,
        List.filter_filter, List.filter_filter]
      simp only [Bool.and_comm]
    · rw [List.filter_cons_of_neg hp, List.filter_cons_of_neg hp, ← hrec, List.filter_filter]
      congr 1
      apply List.filter_congr
      intro b _
      by_cases hb : b = a
      · subst hb; simp [hp]
      · simp [hb]
termination_by l => l.length

theorem mem_due {w : Session} {l : List Nat} {s : Nat} :
    s ∈ w.due l ↔ s ∈ l ∧ w.isOpenStatement s = true := by
  simp [due, List.mem_filter, List.mem_eraseDups]

theorem due_cons_of_not_open {w : Session} {s : Nat} (h : w.isOpenStatement s = false)
    (l : List Nat) : w.due (s :: l) = w.due l := by
  have hs : ¬ w.isOpenStatement s = true := by simp [h]
  unfold due
  rw [List.eraseDups_cons, List.filter_cons_of_neg hs, eraseDups_filter, List.filter_filter]
  apply List.filter_congr
  intro t _
  by_cases ht : t = s
  · subst ht; simp [h]
  · simp [ht]

theorem due_cons_of_open {w : Session} {s : Nat} (h : w.isOpenStatement s = true) (w' : Session)
    (h' : ∀ t, w'.isOpenStatement t = (w.isOpenStatement t && !t == s)) (l : List Nat) :
    w.due (s :: l) = s :: w'.due l := by
  unfold due
  rw [List.eraseDups_cons, List.filter_cons_of_pos h, eraseDups_filter, List.filter_filter]
  congr 1
  apply List.filter_congr
  intro t _
  exact (h' t).symm

theorem isOpenStatement_closeAtDriver (w : Session) (s t : Nat) :
    (w.closeAtDriver s).1.isOpenStatement t = (w.isOpenStatement t && !t == s) := by
  unfold isOpenStatement
  rw [closeAtDriver_statements, Roster.get?_modify]
  by_cases ht : t = s
  · subst ht
    cases w.statements.get? t <;> simp
  · cases w.statements.get? t <;> simp [ht]

/-- The session `w'` in which statement `s` of `w` has been closed without a panic on behalf of the
connection `c`; a failure has been noted. -/
structure ClosedOne (w : Session) (c s : Nat) (w' : Session) : Prop where
  wasOpen : w.isOpenStatement s = true
  calm : w.panicsOnClose s = false
  statements : w'.statements =
    w.statements.modify s fun statement => { statement with closed := true }
  journals : ∀ j, w'.journals.get? j = (w.journals.get? j).map fun journal =>
    { journal with events := journal.events ++ (w.closeEventIn? j s).toList }
  connections : w'.connections = w.connections.modify c fun conn =>
    { conn with broken := conn.broken || breaks conn ((w.closeError? s).map (s, ·)).toList }
  watch : w'.watch = w.watch
  pools : w'.pools = w.pools

namespace ClosedOne

variable {w w₁ w' : Session} {c s : Nat}

theorem sameScript (h : ClosedOne w c s w₁) : SameScript w w₁ := by
  refine SameScript.of_writes ?_ fun j => ⟨_, h.journals j⟩
  intro t
  by_cases ht : t = s
  · exact ⟨fun _ => true, by rw [h.statements, Roster.get?_modify, if_pos ht]⟩
  · refine ⟨fun b => b, ?_⟩
    rw [h.statements, Roster.get?_modify, if_neg ht]
    cases w.statements.get? t <;> rfl

theorem due_cons (h : ClosedOne w c s w₁) (l : List Nat) : w.due (s :: l) = s :: w₁.due l := by
  refine due_cons_of_open h.wasOpen w₁ ?_ l
  intro t
  rw [← isOpenStatement_closeAtDriver w s t]
  unfold isOpenStatement
  rw [h.statements, closeAtDriver_statements]

theorem completed_cons (h : ClosedOne w c s w₁) (l : List Nat) :
    w.completed (s :: l) = s :: w₁.completed l := by
  unfold completed
  rw [h.due_cons, h.sameScript.panicsOnClose, List.takeWhile_cons_of_pos (by simp [h.calm])]

theorem unwinding?_cons (h : ClosedOne w c s w₁) (l : List Nat) :
    w.unwinding? (s :: l) = w₁.unwinding? l := by
  unfold unwinding?
  rw [h.due_cons, h.sameScript.panicsOnClose, List.find?_cons_of_neg (by simp [h.calm])]

theorem reached_cons (h : ClosedOne w c s w₁) (l : List Nat) :
    w.reached (s :: l) = s :: w₁.reached l := by
  unfold reached
  rw [h.completed_cons, h.unwinding?_cons, List.cons_append]

theorem failures_cons (h : ClosedOne w c s w₁) (l : List Nat) :
    w.failures (s :: l) = ((w.closeError? s).map (s, ·)).toList ++ w₁.failures l := by
  unfold failures
  rw [h.completed_cons, h.sameScript.closeError?, List.filterMap_cons]
  cases w.closeError? s <;> rfl

theorem sweepResult_cons (h : ClosedOne w c s w₁) (l : List Nat) :
    w.sweepResult (s :: l) =
      match w₁.sweepResult l with
      | .finished failure => .finished (((w.closeError? s).map (s, ·)).or failure)
      | .panicked label => .panicked label := by
  unfold sweepResult
  rw [h.unwinding?_cons, h.failures_cons, h.sameScript.drivers]
  cases w₁.unwinding? l with
  | none => cases w.closeError? s <;> rfl
  | some p => rfl

/-- A sweep starts with its first statement and goes on from there. -/
theorem swept_cons (h : ClosedOne w c s w₁) {l : List Nat} (hl : Swept w₁ c l w') :
    Swept w c (s :: l) w' where
  statements := by
    intro t
    rw [hl.statements, h.reached_cons, h.statements, Roster.get?_modify]
    by_cases ht : t = s
    · subst ht
      cases w.statements.get? t <;> simp
    · cases w.statements.get? t <;> simp [ht]
  journals := by
    intro j
    rw [hl.journals, h.journals, h.completed_cons, h.sameScript.closeEventIn?,
      List.filterMap_cons]
    cases w.journals.get? j with
    | none => rfl
    | some journal => cases w.closeEventIn? j s <;> simp
  connections := by
    rw [hl.connections, h.connections, h.failures_cons, Roster.modify_modify]
    simp only [breaks, List.any_append, Bool.or_assoc]
  watch := by rw [hl.watch, h.watch]
  pools := by rw [hl.pools, h.pools]

end ClosedOne

/-- Closing a statement whose close does not go wrong. -/
theorem closedOne_of_closed {w : Session} {s : Nat} (c : Nat) (ho : w.isOpenStatement s = true)
    (hf : w.closeFault? s = none) : ClosedOne w c s (w.closeAtDriver s).1 where
  wasOpen := ho
  calm := by simp [panicsOnClose, hf]
  statements := closeAtDriver_statements w s
  journals := closeAtDriver_journals ho
  connections := by simp [closeError?, hf, breaks, Roster.modify_id]
  watch := by simp
  pools := by simp

/-- Closing a statement whose close fails. -/
theorem closedOne_of_failed {w : Session} {s : Nat} {e : DriverError} (c : Nat)
    (ho : w.isOpenStatement s = true) (hf : w.closeFault? s = some (.failed e)) :
    ClosedOne w c s ((w.closeAtDriver s).1.noteFailure c s e) where
  wasOpen := ho
  calm := by simp [panicsOnClose, hf]
  statements := by simp [closeAtDriver_statements]
  journals := by simpa using closeAtDriver_journals ho
  connections := by simp [noteFailure_connections, closeError?, hf, breaks]
  watch := by simp
  pools := by simp

theorem swept_nil (w : Session) (c : Nat) : Swept w c [] w where
  statements := by
    intro s
    cases w.statements.get? s <;> simp [reached, completed, unwinding?, due]
  journals := by
    intro j
    cases w.journals.get? j <;> simp [completed, due]
  connections := by simp [failures, completed, due, breaks, Roster.modify_id]
  watch := rfl
  pools := rfl

/-- A statement that is not open takes no part in a sweep. -/
theorem swept_cons_of_not_open {w w' : Session} {c s : Nat} {l : List Nat}
    (h : w.isOpenStatement s = false) (hl : Swept w c l w') : Swept w c (s :: l) w' := by
  obtain ⟨hs, hj, hc, hw, hp⟩ := hl
  refine ⟨?_, ?_, ?_, hw, hp⟩
  all_goals simpa only [reached, unwinding?, failures, completed, due_cons_of_not_open h]

/-- A statement that panics has a driver, whose label is the panic. -/
theorem closeFault?_of_panics {w : Session} {s : Nat} (h : w.panicsOnClose s = true) :
    ∃ d, w.driverOf? s = some d ∧ w.closeFault? s = some (.panicked d.label) := by
  unfold panicsOnClose closeFault? at h
  cases hd : w.driverOf? s with
  | none => rw [hd] at h; cases h
  | some d =>
    refine ⟨d, rfl, ?_⟩
    unfold closeFault?
    rw [hd] at h ⊢
    unfold Driver.Journal.closeFault? at h ⊢
    simp only [Option.bind_some] at h ⊢
    split at h
    · rename_i label hfault
      split at hfault
      · rename_i hscripted
        rw [if_pos hscripted]
      · cases he : ((w.journals.get? d.journal).getD {}).closeError? d.label <;>
          simp [he] at hfault
    · cases h

theorem closeEventIn?_of_panics {w : Session} {s : Nat} (h : w.panicsOnClose s = true) (j : Nat) :
    w.closeEventIn? j s = none := by
  unfold panicsOnClose closeFault? at h
  unfold closeEventIn?
  cases hd : w.driverOf? s with
  | none => rfl
  | some d =>
    rw [hd] at h
    simp only [Option.bind_some] at h ⊢
    split
    · rename_i hj
      subst hj
      unfold Driver.Journal.closeEvent?
      split at h
      · rename_i hf
        rw [hf]
      · cases h
    · rfl

/-- A statement whose close panics is the last one that a sweep reaches. -/
theorem swept_cons_of_panic {w : Session} {s : Nat} (c : Nat) (l : List Nat)
    (ho : w.isOpenStatement s = true) (hp : w.panicsOnClose s = true) :
    Swept w c (s :: l) (w.closeAtDriver s).1 := by
  have hl' := due_cons_of_open ho _ (isOpenStatement_closeAtDriver w s) l
  have hcompleted : w.completed (s :: l) = [] := by simp [completed, hl', hp]
  have hreached : w.reached (s :: l) = [s] := by
    simp [reached, hcompleted, unwinding?, hl', hp]
  constructor
  · intro t
    rw [closeAtDriver_statements, Roster.get?_modify, hreached]
    by_cases ht : t = s
    · subst ht
      cases w.statements.get? t <;> simp
    · cases w.statements.get? t <;> simp [ht]
  · intro j
    rw [closeAtDriver_journals ho, hcompleted, closeEventIn?_of_panics hp]
    rfl
  · simp [failures, hcompleted, breaks, Roster.modify_id]
  · simp
  · simp

theorem sweepResult_cons_of_panic {w : Session} {s : Nat} {label : String} (l : List Nat)
    (ho : w.isOpenStatement s = true) (hf : w.closeFault? s = some (.panicked label)) :
    w.sweepResult (s :: l) = .panicked label := by
  have hp : w.panicsOnClose s = true := by simp [panicsOnClose, hf]
  have hdue := due_cons_of_open ho _ (isOpenStatement_closeAtDriver w s) l
  obtain ⟨d, hd, hfault⟩ := closeFault?_of_panics hp
  rw [hf] at hfault
  cases hfault
  unfold sweepResult unwinding?
  rw [hdue, List.find?_cons_of_pos hp]
  dsimp only
  rw [hd]
  rfl

/-- What a sweep leaves behind, and how it ends. -/
theorem swept_sweep (w : Session) (c : Nat) (l : List Nat) :
    Swept w c l (w.sweep c l).1 ∧ (w.sweep c l).2 = w.sweepResult l := by
  induction l generalizing w with
  | nil => exact ⟨swept_nil w c, rfl⟩
  | cons s l ih =>
    cases ho : w.isOpenStatement s with
    | false =>
      obtain ⟨hl, hr⟩ := ih w
      rw [sweep, closeAtDriver_of_not_open ho]
      refine ⟨swept_cons_of_not_open ho hl, ?_⟩
      rw [hr]
      simp only [sweepResult, unwinding?, failures, completed, due_cons_of_not_open ho]
    | true =>
      have hsnd := closeAtDriver_snd ho
      have hsplit : w.closeAtDriver s = ((w.closeAtDriver s).1, (w.closeAtDriver s).2) := rfl
      cases hf : w.closeFault? s with
      | none =>
        have h₁ := closedOne_of_closed c ho hf
        obtain ⟨hl, hr⟩ := ih (w.closeAtDriver s).1
        rw [hf] at hsnd
        rw [sweep, hsplit, hsnd]
        refine ⟨h₁.swept_cons hl, ?_⟩
        dsimp only
        rw [hr, h₁.sweepResult_cons]
        simp only [closeError?, hf, Option.map_none, Option.none_or]
        cases (w.closeAtDriver s).1.sweepResult l <;> rfl
      | some fault =>
        cases fault with
        | failed e =>
          have h₁ := closedOne_of_failed c ho hf
          obtain ⟨hl, hr⟩ := ih ((w.closeAtDriver s).1.noteFailure c s e)
          rw [hf] at hsnd
          rw [sweep, hsplit, hsnd, h₁.sweepResult_cons, ← hr]
          dsimp only
          cases hrest : ((w.closeAtDriver s).1.noteFailure c s e).sweep c l with
          | mk w' result =>
            rw [hrest] at hl
            cases result with
            | finished _ => exact ⟨h₁.swept_cons hl, by simp [closeError?, hf]⟩
            | panicked _ => exact ⟨h₁.swept_cons hl, rfl⟩
        | panicked label =>
          have hp : w.panicsOnClose s = true := by simp [panicsOnClose, hf]
          rw [hf] at hsnd
          rw [sweep, hsplit, hsnd]
          exact ⟨swept_cons_of_panic c l ho hp, (sweepResult_cons_of_panic l ho hf).symm⟩

/-! ## Sweeps without a panic -/

section Calm

variable {w : Session} {l : List Nat} (calm : ∀ s ∈ w.due l, w.panicsOnClose s = false)
include calm

theorem completed_of_calm : w.completed l = w.due l := by
  unfold completed
  rw [List.takeWhile_eq_self_iff]
  intro s hs
  rw [calm s hs]
  rfl

theorem unwinding?_of_calm : w.unwinding? l = none := by
  unfold unwinding?
  rw [List.find?_eq_none]
  intro s hs
  rw [calm s hs]
  exact Bool.false_ne_true

theorem reached_of_calm : w.reached l = w.due l := by
  unfold reached
  rw [completed_of_calm calm, unwinding?_of_calm calm, Option.toList_none, List.append_nil]

theorem failures_of_calm :
    w.failures l = (w.due l).filterMap fun s => (w.closeError? s).map (s, ·) := by
  unfold failures
  rw [completed_of_calm calm]

theorem sweepResult_of_calm : w.sweepResult l = .finished (w.failures l).head? := by
  unfold sweepResult
  rw [unwinding?_of_calm calm]

end Calm

/-! ## The order of a sweep -/

/-- What passes a filter stands in the same order before and after it. -/
theorem idxOf_lt_of_filter {p : Nat → Bool} {s t : Nat} (hs : p s = true) (ht : p t = true) :
    ∀ {l : List Nat}, (l.filter p).idxOf s < (l.filter p).idxOf t → l.idxOf s < l.idxOf t
  | [], h => by simp at h
  | a :: l, h => by
    by_cases hp : p a
    · rw [List.filter_cons_of_pos hp] at h
      rw [List.idxOf_cons, List.idxOf_cons] at h ⊢
      cases has : a == s <;> cases hat : a == t <;> rw [has, hat] at h <;>
        simp only [cond_false, cond_true] at h ⊢
      · have := idxOf_lt_of_filter hs ht (l := l) (by omega)
        omega
      all_goals omega
    · have has : a ≠ s := fun e => hp (e ▸ hs)
      have hat : a ≠ t := fun e => hp (e ▸ ht)
      rw [List.filter_cons_of_neg hp] at h
      have := idxOf_lt_of_filter hs ht h
      rw [List.idxOf_cons_ne _ has, List.idxOf_cons_ne _ hat]
      omega

/-- Each entry that a list keeps when repetitions are erased stands at its first place. -/
theorem eraseDups_pairwise :
    ∀ l : List Nat, l.eraseDups.Pairwise fun s t => l.idxOf s < l.idxOf t
  | [] => List.Pairwise.nil
  | a :: l => by
    have hlt : (l.filter fun b => !b == a).length < l.length + 1 :=
      Nat.lt_succ_of_le (List.length_filter_le _ _)
    have hrec := eraseDups_pairwise (l.filter fun b => !b == a)
    have hne : ∀ t ∈ (l.filter fun b => !b == a).eraseDups, a ≠ t := by
      intro t ht
      rw [List.mem_eraseDups, List.mem_filter] at ht
      rintro rfl
      simp at ht
    rw [List.eraseDups_cons]
    refine List.Pairwise.cons ?_ (hrec.imp_of_mem ?_)
    · intro t ht
      rw [List.idxOf_cons_self, List.idxOf_cons_ne _ (hne t ht)]
      exact Nat.succ_pos _
    · intro s t hs ht hst
      have has := hne s hs
      have hat := hne t ht
      rw [List.idxOf_cons_ne _ has, List.idxOf_cons_ne _ hat]
      exact Nat.succ_lt_succ
        (idxOf_lt_of_filter (by simpa using Ne.symm has) (by simpa using Ne.symm hat) hst)
termination_by l => l.length

theorem due_pairwise (w : Session) (l : List Nat) :
    (w.due l).Pairwise fun s t => l.idxOf s < l.idxOf t :=
  (eraseDups_pairwise l).sublist List.filter_sublist

theorem due_nodup (w : Session) (l : List Nat) : (w.due l).Nodup := by
  refine (due_pairwise w l).imp ?_
  intro s t hst e
  rw [e] at hst
  exact Nat.lt_irrefl _ hst

theorem eraseDups_of_nodup {l : List Nat} (h : l.Nodup) : l.eraseDups = l := by
  induction l with
  | nil => rfl
  | cons a l ih =>
    obtain ⟨hnot, hrest⟩ := List.nodup_cons.1 h
    have hkept : l.filter (fun b => !b == a) = l := by
      rw [List.filter_eq_self]
      intro b hb
      have hne : b ≠ a := fun e => hnot (e ▸ hb)
      simpa using hne
    rw [List.eraseDups_cons, hkept, ih hrest]

theorem due_of_nodup (w : Session) {l : List Nat} (h : l.Nodup) :
    w.due l = l.filter w.isOpenStatement := by
  unfold due
  rw [eraseDups_of_nodup h]

/-! ## Only statements and journals matter to a sweep -/

section SameRecords

variable {w w' : Session} (hs : w'.statements = w.statements) (hj : w'.journals = w.journals)
include hs

theorem isOpenStatement_congr : w'.isOpenStatement = w.isOpenStatement := by
  funext s
  unfold isOpenStatement
  rw [hs]

theorem due_congr (l : List Nat) : w'.due l = w.due l := by
  unfold due
  rw [isOpenStatement_congr hs]

include hj

theorem SameScript.of_eq : SameScript w w' where
  drivers := by
    funext s
    unfold driverOf?
    rw [hs]
  faults := by
    intro j
    rw [hj]

theorem completed_congr (l : List Nat) : w'.completed l = w.completed l := by
  unfold completed
  rw [due_congr hs, (SameScript.of_eq hs hj).panicsOnClose]

theorem unwinding?_congr (l : List Nat) : w'.unwinding? l = w.unwinding? l := by
  unfold unwinding?
  rw [due_congr hs, (SameScript.of_eq hs hj).panicsOnClose]

theorem reached_congr (l : List Nat) : w'.reached l = w.reached l := by
  unfold reached
  rw [completed_congr hs hj, unwinding?_congr hs hj]

theorem failures_congr (l : List Nat) : w'.failures l = w.failures l := by
  unfold failures
  rw [completed_congr hs hj, (SameScript.of_eq hs hj).closeError?]

theorem sweepResult_congr (l : List Nat) : w'.sweepResult l = w.sweepResult l := by
  unfold sweepResult
  rw [unwinding?_congr hs hj, failures_congr hs hj, (SameScript.of_eq hs hj).drivers]

end SameRecords

end Session

end ConnLease
