import Mathlib.Data.List.DropRight
import Mathlib.Data.List.Induction
import ConnLease.Proofs.Driver.Course

/-!
# What a scripted driver owes to its history

Links share journals in any way, and the script stands in the journals, while the auto-commit mode
and the numbering of plain statements belong to the links. So what a call meets is decided by what
was done through all links of its journal, and what it answers by what was done on its own link.
Both are read off the history of a bench here, its operations with the benches that they found, and
not off its state.

`recalls_run` and `standing_run` tie the state to the history. Main statement: `follows_script`.
-/

namespace ConnLease.Driver.Bench

/-- Perform operations one after the other. -/
def run (b : Bench) (ops : List Op) : Bench := ops.foldl (fun b op => (b.step op).1) b

/-- The operations of a run, each with the bench that it finds. -/
def history (b : Bench) : List Op → List (Bench × Op)
  | [] => []
  | op :: ops => (b, op) :: (b.step op).1.history ops

/-! ## What the history says -/

/-- What was done to the journal `j`, through any link that shares it. -/
def dealings (ops : List Op) (j : Nat) : List (Bench × Op) :=
  (history {} ops).filter fun x => x.1.target? x.2 == some j

/-- The errors scripted for the next call on the journal `j` since the last call on it. -/
def scriptedSinceCall (ops : List Op) (j : Nat) : List DriverError :=
  ((dealings ops j).rtakeWhile (!·.2.isCall)).filterMap (·.2.nextError?)

/-- The errors scripted for closing statements with a label on the journal `j`. -/
def closeErrors (ops : List Op) (j : Nat) (label : String) : List DriverError :=
  (dealings ops j).filterMap fun x => (x.2.closeError?.filter (·.1 == label)).map (·.2)

/-- The labels whose close is scripted to panic on the journal `j`. -/
def panicLabels (ops : List Op) (j : Nat) : List String :=
  (dealings ops j).filterMap (·.2.panicLabel?)

/-- The modes that were set on a link, oldest first. -/
def modesSet (ops : List Op) (link : Nat) : List Bool :=
  (history {} ops).filterMap fun x => x.1.modeSet? link x.2

/-- How many plain statements were created on a link. -/
def creations (ops : List Op) (link : Nat) : Nat :=
  (history {} ops).countP fun x => x.1.creates link x.2

/-- The closes of statements of the journal `j` that came to something. -/
def attempts (ops : List Op) (j : Nat) : List (String × Bool) :=
  (dealings ops j).filterMap fun x => x.1.attempt? x.2

theorem run_snoc (b : Bench) (ops : List Op) (op : Op) :
    b.run (ops ++ [op]) = ((b.run ops).step op).1 := by
  simp [run]

theorem history_snoc (b : Bench) (ops : List Op) (op : Op) :
    b.history (ops ++ [op]) = b.history ops ++ [(b.run ops, op)] := by
  induction ops generalizing b with
  | nil => rfl
  | cons o ops ih =>
    rw [List.cons_append, history, history, ih]
    rfl

theorem dealings_snoc_of_target {ops : List Op} {op : Op} {j : Nat}
    (h : (run {} ops).target? op = some j) :
    dealings (ops ++ [op]) j = dealings ops j ++ [(run {} ops, op)] := by
  unfold dealings
  rw [history_snoc, List.filter_append, List.filter_cons_of_pos (by simpa using h)]
  rfl

theorem dealings_snoc_of_ne {ops : List Op} {op : Op} {j : Nat}
    (h : (run {} ops).target? op ≠ some j) : dealings (ops ++ [op]) j = dealings ops j := by
  unfold dealings
  rw [history_snoc, List.filter_append, List.filter_cons_of_neg (by simpa using h)]
  exact List.append_nil _

/-! ## The state as a record of the history -/

theorem sound_run (ops : List Op) : (run {} ops).Sound := by
  induction ops using List.reverseRecOn with
  | nil =>
    refine ⟨fun k l hl => ?_, fun s st hs => ?_⟩
    · rw [show (run {} []).links = .empty from rfl, Roster.get?_empty] at hl
      cases hl
    · rw [show (run {} []).opened = .empty from rfl, Roster.get?_empty] at hs
      cases hs
  | append_singleton ops op ih =>
    rw [run_snoc]
    exact sound_step ih op

/-- A journal is what was done to it. -/
structure Recalls (ops : List Op) (j : Nat) (journal : Journal) : Prop where
  next : journal.nextError = (scriptedSinceCall ops j).getLast?
  closing : ∀ label, journal.closeError? label = (closeErrors ops j label).getLast?
  panics : ∀ label, label ∈ journal.panics ↔ label ∈ panicLabels ops j
  events : journal.events = (dealings ops j).filterMap fun x => x.1.event? x.2

theorem scriptedSinceCall_snoc {ops : List Op} {op : Op} {j : Nat}
    (h : (run {} ops).target? op = some j) :
    scriptedSinceCall (ops ++ [op]) j =
      if op.isCall then [] else scriptedSinceCall ops j ++ op.nextError?.toList := by
  unfold scriptedSinceCall
  rw [dealings_snoc_of_target h, List.rtakeWhile_concat]
  cases hc : op.isCall with
  | true => simp
  | false => cases hn : op.nextError? <;> simp [hn]

theorem closeError?_append (journal : Journal) (scripted : Option (String × DriverError))
    (label : String) :
    { journal with closeErrors := scripted.toList ++ journal.closeErrors }.closeError? label =
      ((scripted.filter (·.1 == label)).map (·.2)).or (journal.closeError? label) := by
  unfold Journal.closeError?
  cases scripted with
  | none => rfl
  | some x => by_cases hx : x.1 = label <;> simp [Option.filter, hx]

theorem recalls_run (ops : List Op) (j : Nat) : Recalls ops j ((run {} ops).journalAt j) := by
  induction ops using List.reverseRecOn with
  | nil =>
    have hblank : (run {} []).journalAt j = {} := by
      rw [journalAt, show (run {} []).journals = .empty from rfl, Roster.get?_empty]
      rfl
    rw [hblank]
    exact ⟨rfl, fun _ => rfl, fun _ => .rfl, rfl⟩
  | append_singleton ops op ih =>
    rw [run_snoc, journalAt_step (sound_run ops)]
    split
    · rename_i ht
      refine ⟨?_, fun label => ?_, fun label => ?_, ?_⟩
      · rw [scriptedSinceCall_snoc ht]
        simp only [leaves, ih.next]
        cases op.isCall with
        | true => rfl
        | false => cases op.nextError? <;> simp
      · have hleft : ((run {} ops).leaves op ((run {} ops).journalAt j)).closeError? label =
            ((op.closeError?.filter (·.1 == label)).map (·.2)).or
              (((run {} ops).journalAt j).closeError? label) :=
          closeError?_append _ _ _
        rw [hleft, ih.closing, closeErrors, closeErrors, dealings_snoc_of_target ht]
        cases hx : (op.closeError?.filter (·.1 == label)).map (·.2) <;> simp [hx]
      · simp only [leaves, List.mem_append, ih.panics, panicLabels, dealings_snoc_of_target ht]
        cases hx : op.panicLabel? <;> simp [hx, or_comm]
      · simp only [leaves, ih.events, dealings_snoc_of_target ht]
        cases hx : (run {} ops).event? op <;> simp [hx]
    · rename_i ht
      have hsame := dealings_snoc_of_ne ht
      exact ⟨by rw [scriptedSinceCall, hsame]; exact ih.next,
        fun label => by rw [closeErrors, hsame]; exact ih.closing label,
        fun label => by rw [panicLabels, hsame]; exact ih.panics label,
        by rw [hsame]; exact ih.events⟩

/-- A link stands as the calls that succeeded on it have left it. -/
theorem standing_run (ops : List Op) (k : Nat) :
    (run {} ops).standing k =
      ((modesSet ops k).getLast?.getD true, UInt32.ofNat (creations ops k)) := by
  induction ops using List.reverseRecOn with
  | nil =>
    rw [standing, show (run {} []).links = .empty from rfl, Roster.get?_empty]
    rfl
  | append_singleton ops op ih =>
    rw [run_snoc, standing_step (sound_run ops), ih, modesSet, modesSet, creations, creations,
      history_snoc]
    cases hm : (run {} ops).modeSet? k op <;> cases hc : (run {} ops).creates k op <;>
      simp [hm, hc, Bool.toUInt32, UInt32.ofNat_add]

theorem get?_opened_run (ops : List Op) (s : Nat) (st : Statement) :
    (run {} ops).opened.get? s = some st ↔ ∃ x ∈ history {} ops, Opens x.1 x.2 s st := by
  induction ops using List.reverseRecOn with
  | nil =>
    rw [show (run {} []).opened = .empty from rfl, Roster.get?_empty]
    simp [history]
  | append_singleton ops op ih =>
    rw [run_snoc, get?_opened_step (sound_run ops), ih, history_snoc]
    simp [or_and_right, exists_or]

theorem triedLabels_run (ops : List Op) (j : Nat) :
    ((run {} ops).journalAt j).triedLabels = (attempts ops j).map (·.1) := by
  rw [Journal.triedLabels, (recalls_run ops j).events, attempts, List.filterMap_filterMap,
    List.map_filterMap]
  exact List.filterMap_congr fun x _ => (close_event? x.1 x.2).1

theorem closedLabels_run (ops : List Op) (j : Nat) :
    ((run {} ops).journalAt j).closedLabels = ((attempts ops j).filter (·.2)).map (·.1) := by
  rw [Journal.closedLabels, (recalls_run ops j).events, attempts, List.filterMap_filterMap,
    List.filter_filterMap, List.map_filterMap]
  exact List.filterMap_congr fun x _ => (close_event? x.1 x.2).2

/-! ## The law -/

/-- What a bench does next, by what was done on it before. -/
structure FollowsScript (ops : List Op) (b : Bench) : Prop where
  /-- A call fails exactly if an error was scripted since the last call on its journal, and with the
  newest of them. -/
  fails_iff : ∀ op j e, op.isCall = true → b.target? op = some j →
    ((b.step op).2 = .failed e ↔ (scriptedSinceCall ops j).getLast? = some e)
  /-- A call that fails leaves no event, and neither link nor statement changed. -/
  failing : ∀ op j e, op.isCall = true → b.target? op = some j →
    (b.step op).2 = .failed e →
    (∀ k, ((b.step op).1.journalAt k).events = (b.journalAt k).events) ∧
      (b.step op).1.links = b.links ∧
      (b.step op).1.opened = b.opened
  /-- A statement is labelled with its SQL text, or numbered by the plain statements that were
  created on its own link, as long as there is a number for it. -/
  opening : ∀ link l call label, b.links.get? link = some l →
    scriptedSinceCall ops l.journal = [] → call.Fits (creations ops link) →
    label = call.sql?.getD ("statement#" ++ toString (creations ops link + 1)) →
    (b.step (.openStatement link call)).2 = .opened b.opened.next label ∧
      b.Adds (.openStatement link call) l.journal [call.event label]
  /-- Reading the mode changes nothing and gives what was last set on the link itself. -/
  reading : ∀ link l, b.links.get? link = some l →
    scriptedSinceCall ops l.journal = [] →
    b.step (.perform link .autoCommit) =
      (b, .mode ((modesSet ops link).getLast?.getD true))
  performing : ∀ link l call, b.links.get? link = some l →
    scriptedSinceCall ops l.journal = [] → call ≠ .autoCommit →
    (b.step (.perform link call)).2 = .done ∧
      ∃ event, call.event? = some event ∧
        b.Adds (.perform link call) l.journal [event]
  /-- A scripted panic comes before a scripted error. -/
  panicking : ∀ s st, b.opened.get? s = some st →
    st.label ∈ panicLabels ops st.journal →
    b.step (.closeStatement s) = (b, .panicked st.label)
  closeFailing : ∀ s st e, b.opened.get? s = some st →
    st.label ∉ panicLabels ops st.journal →
    (closeErrors ops st.journal st.label).getLast? = some e →
    (b.step (.closeStatement s)).2 = .failed e ∧
      b.Adds (.closeStatement s) st.journal [.statementCloseFailed st.label]
  closing : ∀ s st, b.opened.get? s = some st →
    st.label ∉ panicLabels ops st.journal → closeErrors ops st.journal st.label = [] →
    (b.step (.closeStatement s)).2 = .done ∧
      b.Adds (.closeStatement s) st.journal [.statementClosed st.label]
  /-- Connecting, scripting and reading a journal leave no event. -/
  quiet : ∀ op, op.isCall = false → (∀ s, op ≠ .closeStatement s) → ∀ k,
    ((b.step op).1.journalAt k).events = (b.journalAt k).events
  /-- The statements are those that calls have opened, with label and journal. -/
  statements : ∀ s st,
    b.opened.get? s = some st ↔ ∃ x ∈ history {} ops, Opens x.1 x.2 s st
  /-- The tried closes are in the journal in their order, and the closed statements are the part of
  them that succeeded. -/
  tried : ∀ j, (b.journalAt j).triedLabels = (attempts ops j).map (·.1)
  closed : ∀ j,
    (b.journalAt j).closedLabels = ((attempts ops j).filter (·.2)).map (·.1)

section Law

variable {ops : List Op} {link : Nat} {l : Link}

/-- The journal of a link, with what the history says about it. -/
theorem journal_of_link (hl : (run {} ops).links.get? link = some l) :
    ∃ journal, (run {} ops).journals.get? l.journal = some journal ∧
      Recalls ops l.journal journal := by
  obtain ⟨journal, hj⟩ := Option.isSome_iff_exists.1 ((sound_run ops).links link l hl)
  exact ⟨journal, hj, journalAt_of_some hj ▸ recalls_run ops l.journal⟩

theorem journal_of_statement {s : Nat} {st : Statement}
    (hs : (run {} ops).opened.get? s = some st) :
    ∃ journal, (run {} ops).journals.get? st.journal = some journal ∧
      Recalls ops st.journal journal := by
  obtain ⟨journal, hj⟩ := Option.isSome_iff_exists.1 ((sound_run ops).opened s st hs)
  exact ⟨journal, hj, journalAt_of_some hj ▸ recalls_run ops st.journal⟩

theorem Recalls.quiet {j : Nat} {journal : Journal} (h : Recalls ops j journal)
    (hn : scriptedSinceCall ops j = []) : journal.nextError = none := by
  rw [h.next, hn]
  rfl

theorem standing_of_link (hl : (run {} ops).links.get? link = some l) :
    l.autoCommit = (modesSet ops link).getLast?.getD true ∧
      l.plainCount = UInt32.ofNat (creations ops link) :=
  Prod.ext_iff.1 ((standing_of_some hl).symm.trans (standing_run ops link))

end Law

/-- The bench that operations lead to does what their history says. -/
theorem follows_script (ops : List Op) : FollowsScript ops (run {} ops) where
  fails_iff op j e hc ht := by
    rw [← (recalls_run ops j).next]
    rcases call_cases (sound_run ops) hc ht with ⟨journal, e', he, hstep⟩ | ⟨he, hreply⟩
    · rw [hstep, he]
      exact ⟨fun h => by rw [Reply.failed.inj h], fun h => by rw [Option.some.inj h]⟩
    · rw [he]
      exact ⟨fun h => absurd h (hreply e), fun h => by cases h⟩
  failing op j e hc ht hfailed := by
    rcases call_cases (sound_run ops) hc ht with ⟨journal, e', he, hstep⟩ | ⟨he, hreply⟩
    · have hevent : (run {} ops).event? op = none := by
        cases op with
        | openStatement link call | perform link call => simp [event?, hstep]
        | _ => cases hc
      exact ⟨events_step_of_none (sound_run ops) hevent, by rw [hstep], by rw [hstep]⟩
    · exact absurd hfailed (hreply e)
  opening link l call label hl hn hfits hlabel := by
    obtain ⟨journal, hj, hrecalls⟩ := journal_of_link hl
    have hstep := step_openStatement_of_none hl hj (hrecalls.quiet hn) call
    rw [OpenCall.label_of_count hfits (standing_of_link hl).2, ← hlabel] at hstep
    refine ⟨by rw [hstep], ?_⟩
    have htarget : (run {} ops).target? (.openStatement link call) = some l.journal := by
      simp [target?, hl]
    have hadds := adds_event? (sound_run ops) htarget
    simpa [event?, hstep] using hadds
  reading link l hl hn := by
    obtain ⟨journal, hj, hrecalls⟩ := journal_of_link hl
    rw [step_autoCommit_of_none hl hj (hrecalls.quiet hn), (standing_of_link hl).1]
  performing link l call hl hn hcall := by
    obtain ⟨journal, hj, hrecalls⟩ := journal_of_link hl
    obtain ⟨event, hevent⟩ : ∃ event, call.event? = some event := by
      cases call with
      | autoCommit => exact absurd rfl hcall
      | setAutoCommit enabled | commit | rollback | close => exact ⟨_, rfl⟩
    have hstep := step_perform_of_none hl hj (hrecalls.quiet hn) hevent
    have htarget : (run {} ops).target? (.perform link call) = some l.journal := by
      simp [target?, hl]
    have hadds := adds_event? (sound_run ops) htarget
    exact ⟨by rw [hstep], event, hevent, by simpa [event?, hstep, hevent] using hadds⟩
  panicking s st hs hp := by
    obtain ⟨journal, hj, hrecalls⟩ := journal_of_statement hs
    exact step_closeStatement_of_panics hs hj ((hrecalls.panics _).2 hp)
  closeFailing s st e hs hp he := by
    obtain ⟨journal, hj, hrecalls⟩ := journal_of_statement hs
    have hstep := step_closeStatement_of_error hs hj (fun h => hp ((hrecalls.panics _).1 h))
      ((hrecalls.closing _).trans he)
    have htarget : (run {} ops).target? (.closeStatement s) = some st.journal := by
      simp [target?, hs]
    have hadds := adds_event? (sound_run ops) htarget
    exact ⟨by rw [hstep], by simpa [event?, hstep, hs] using hadds⟩
  closing s st hs hp he := by
    obtain ⟨journal, hj, hrecalls⟩ := journal_of_statement hs
    have hstep := step_closeStatement_of_none hs hj (fun h => hp ((hrecalls.panics _).1 h))
      (by rw [hrecalls.closing, he]; rfl)
    have htarget : (run {} ops).target? (.closeStatement s) = some st.journal := by
      simp [target?, hs]
    have hadds := adds_event? (sound_run ops) htarget
    exact ⟨by rw [hstep], by simpa [event?, hstep, hs] using hadds⟩
  quiet op hq hclose k := by
    refine events_step_of_none (sound_run ops) ?_ k
    unfold event?
    cases op with
    | openStatement link call | perform link call => cases hq
    | closeStatement s => exact absurd rfl (hclose s)
    | _ => rfl
  statements := get?_opened_run ops
  tried := triedLabels_run ops
  closed := closedLabels_run ops

/-- Two links with one journal: the error scripted through the first meets the second. -/
example :
    ((run {} [.connect none, .connect (some 0), .failNext 0 ⟨"down", none, 0⟩, .perform 1 .commit,
      .perform 0 .rollback]).journalAt 0).events = [.rolledBack] := by
  decide

end ConnLease.Driver.Bench
