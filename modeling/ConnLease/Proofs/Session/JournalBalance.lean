import Mathlib.Data.List.Perm.Subperm
import ConnLease.Proofs.Session.DriverCloses

/-!
# An opening for every close

A journal names statements by their labels. Labels are not unique, and connections share journals,
so an event does not tell which statement it is about. Yet in every prefix of every journal the
closes with a label are at most as many as the openings with it: every close that is recorded was
asked for, the driver is asked once for each statement, and every statement was opened by an event
with its label in its journal.

Main statement: `closed_once`.
-/

namespace ConnLease

/-- The label of the statement that was opened. -/
def Driver.Event.opened? : Driver.Event → Option String
  | .statementCreated label _ | .statementPrepared label _ | .callPrepared label _ => some label
  | _ => none

namespace Session

/-! ## Counting events -/

/-- How many of the events close a statement with this label, with or without success. -/
def closings (label : String) (events : List Driver.Event) : Nat :=
  events.countP (·.closeTried? == some label)

/-- How many of the events open a statement with this label. -/
def openings (label : String) (events : List Driver.Event) : Nat :=
  events.countP (·.opened? == some label)

theorem closings_append (label : String) (events more : List Driver.Event) :
    closings label (events ++ more) = closings label events + closings label more :=
  List.countP_append

theorem openings_append (label : String) (events more : List Driver.Event) :
    openings label (events ++ more) = openings label events + openings label more :=
  List.countP_append

theorem closings_eq_zero {events : List Driver.Event} (h : ∀ e ∈ events, e.closeTried? = none)
    (label : String) : closings label events = 0 := by
  refine List.countP_eq_zero.2 ?_
  intro e he
  simp [h e he]

theorem openings_eq_zero {events : List Driver.Event} (h : ∀ e ∈ events, e.opened? = none)
    (label : String) : openings label events = 0 := by
  refine List.countP_eq_zero.2 ?_
  intro e he
  simp [h e he]

theorem closings_take_le (label : String) (events : List Driver.Event) (n : Nat) :
    closings label (events.take n) ≤ closings label events :=
  (List.take_sublist n events).countP_le

/-! ## What a move records -/

/-- The event of a close belongs to the statement. -/
theorem closeEventIn?_eq_some {w : Session} {j s : Nat} {e : Driver.Event}
    (h : w.closeEventIn? j s = some e) : ∃ label, w.driverOf? s = some ⟨label, j⟩ ∧
      e.closeTried? = some label ∧ e.opened? = none := by
  obtain ⟨⟨label, k⟩, hd, h⟩ := Option.bind_eq_some_iff.1 h
  split at h
  · rename_i hk
    obtain rfl : k = j := hk
    refine ⟨label, hd, ?_⟩
    unfold Driver.Journal.closeEvent? at h
    split at h <;> cases h <;> exact ⟨rfl, rfl⟩
  · cases h

theorem mem_calledEvents {w : Session} {c j : Nat} {journal : Driver.Journal}
    {events : Driver.Wire → List Driver.Event} {e : Driver.Event}
    (h : e ∈ w.calledEvents c j journal events) : ∃ wire, e ∈ events wire := by
  unfold calledEvents at h
  split at h
  · exact ⟨_, h⟩
  · cases h

/-- Moves that can close statements. -/
def Move.isClose : Move → Bool
  | .close _ | .closeAtDriver _ => true
  | _ => false

theorem mem_recorded {w : Session} {m : Move} {j : Nat} {e : Driver.Event}
    (h : e ∈ w.recorded m j) : ∃ journal, e ∈ w.addedEvents m j journal := by
  unfold recorded at h
  cases hj : w.journals.get? j with
  | none => rw [hj] at h; cases h
  | some journal =>
    rw [hj] at h
    exact ⟨journal, h⟩

/-- Moves that close record no openings, … -/
theorem opened?_of_recorded {w : Session} {m : Move} (hm : m.isClose = true) {j : Nat} :
    ∀ e ∈ w.recorded m j, e.opened? = none := by
  intro e he
  obtain ⟨journal, he⟩ := mem_recorded he
  cases m with
  | close c =>
    simp only [addedEvents] at he
    split at he
    · cases he
    · obtain ⟨s, -, hs⟩ := List.mem_filterMap.1 he
      obtain ⟨label, -, -, hopened⟩ := closeEventIn?_eq_some hs
      exact hopened
  | closeAtDriver s =>
    simp only [addedEvents] at he
    split at he
    · obtain ⟨label, -, -, hopened⟩ := closeEventIn?_eq_some (Option.mem_toList.1 he)
      exact hopened
    · cases he
  | _ => cases hm

/-- … and all others record no closes. -/
theorem closeTried?_of_recorded {w : Session} {m : Move} (hm : m.isClose = false) {j : Nat} :
    ∀ e ∈ w.recorded m j, e.closeTried? = none := by
  intro e he
  obtain ⟨journal, he⟩ := mem_recorded he
  cases m with
  | close c | closeAtDriver s => cases hm
  | callOpen c call =>
    simp only [addedEvents] at he
    obtain ⟨wire, he⟩ := mem_calledEvents he
    unfold Driver.Wire.opening at he
    split at he
    · obtain rfl := List.mem_singleton.1 he
      cases call <;> rfl
    · cases he
  | callPlain c call =>
    simp only [addedEvents] at he
    obtain ⟨wire, he⟩ := mem_calledEvents he
    unfold Driver.Wire.performing at he
    split at he
    · have hevent : call.event? = some e := Option.mem_toList.1 he
      cases call <;> cases hevent <;> rfl
    · cases he
  | _ => cases he

/-- Closes of statements with this label and journal. -/
theorem closings_filterMap_le (w : Session) (j : Nat) (label : String) (l : List Nat) :
    closings label (l.filterMap (w.closeEventIn? j)) ≤
      l.countP fun s => w.driverOf? s == some ⟨label, j⟩ := by
  unfold closings
  rw [List.countP_filterMap]
  refine List.countP_mono_left ?_
  intro s _ hs
  cases he : w.closeEventIn? j s with
  | none => rw [he] at hs; cases hs
  | some e =>
    obtain ⟨label', hd, htried, -⟩ := closeEventIn?_eq_some he
    rw [he] at hs
    have hlabel : label' = label := by simpa [htried] using hs
    rw [hd, hlabel]
    exact beq_self_eq_true _

/-- Every close that a move records was asked for. -/
theorem closings_recorded_le (w : Session) (m : Move) (j : Nat) (label : String) :
    closings label (w.recorded m j) ≤
      (w.asks m).countP fun s => w.driverOf? s == some ⟨label, j⟩ := by
  cases hclose : m.isClose with
  | false =>
    rw [closings_eq_zero (closeTried?_of_recorded hclose)]
    exact Nat.zero_le _
  | true =>
    have hadded : ∀ journal, closings label (w.addedEvents m j journal) ≤
        (w.asks m).countP fun s => w.driverOf? s == some ⟨label, j⟩ := by
      intro journal
      cases m with
      | close c =>
        show _ ≤ (w.closeAsks c).countP _
        rw [closeAsks_eq]
        simp only [addedEvents]
        split
        · exact Nat.zero_le _
        · refine Nat.le_trans (closings_filterMap_le w j label _) ?_
          unfold reached
          rw [List.countP_append]
          exact Nat.le_add_right _ _
      | closeAtDriver s =>
        simp only [addedEvents]
        split
        · rename_i ho
          have hasked : w.asks (.closeAtDriver s) = [s] := by
            simp only [asks]
            rw [if_neg]
            intro hr
            rw [closeAtDriver_snd ho] at hr
            split at hr <;> cases hr
          have hevent : (w.closeEventIn? j s).toList = [s].filterMap (w.closeEventIn? j) := by
            rw [List.filterMap_cons]
            cases w.closeEventIn? j s <;> rfl
          rw [hasked, hevent]
          exact closings_filterMap_le w j label [s]
        · exact Nat.zero_le _
      | _ => cases hclose
    unfold recorded
    cases w.journals.get? j with
    | none => exact Nat.zero_le _
    | some journal => exact hadded journal

/-! ## Statements have their drivers for good -/

theorem changedStatement_driver (w : Session) (m : Move) (s : Nat) (statement : Statement) :
    (w.changedStatement m s statement).driver = statement.driver := by
  cases m with
  | dropStatement t =>
    simp only [changedStatement]
    split <;> rfl
  | _ => rfl

theorem driverOf?_move [Scheduler] (w : Session) (m : Move) (s : Nat) :
    (w.move m).driverOf? s =
      if s = w.statements.next then m.adopted?.map (·.driver) else w.driverOf? s := by
  unfold driverOf?
  rw [get?_statements_move]
  split
  · rfl
  · cases w.statements.get? s with
    | none => rfl
    | some statement => exact congrArg some (changedStatement_driver w m s statement)

theorem driverOf?_moveAll [Scheduler] {w : Session} {s : Nat} {d : Driver.Statement}
    (h : w.driverOf? s = some d) (ms : List Move) : (w.moveAll ms).driverOf? s = some d := by
  refine (moveAll_induction (P := (·.driverOf? s = some d)) ?_ h).1
  intro x _ hx
  obtain ⟨statement, hs, -⟩ := Option.map_eq_some_iff.1 hx
  have hold : s ≠ x.1.statements.next := Roster.ne_next_of_get? hs
  rw [driverOf?_move, if_neg hold, hx]

/-- Every close that a journal records was asked for. -/
theorem closings_trail_le [Scheduler] (w : Session) (ms : List Move) (j : Nat) (label : String) :
    closings label ((w.moveAll ms).eventsOf j) ≤ closings label (w.eventsOf j) +
      (asksOf (w.trail ms)).countP fun s => (w.moveAll ms).driverOf? s == some ⟨label, j⟩ := by
  induction ms generalizing w with
  | nil => exact Nat.le_add_right _ _
  | cons m ms ih =>
    have hrest := ih (w.move m)
    have hfirst : closings label (w.recorded m j) ≤ (w.asks m).countP fun s =>
        (w.moveAll (m :: ms)).driverOf? s == some ⟨label, j⟩ := by
      refine Nat.le_trans (closings_recorded_le w m j label) (List.countP_mono_left ?_)
      intro s _ hs
      rw [driverOf?_moveAll (eq_of_beq hs) (m :: ms)]
      exact beq_self_eq_true _
    have hsplit : asksOf (w.trail (m :: ms)) = w.asks m ++ asksOf ((w.move m).trail ms) := rfl
    rw [eventsOf_move, closings_append] at hrest
    rw [hsplit, List.countP_append]
    rw [moveAll_cons] at hfirst ⊢
    omega

/-! ## Every statement was opened in its journal -/

/-- The numbers of all statements. -/
def numbers (w : Session) : List Nat := List.range' 1 w.statements.size

/-- How many statements there are that the driver knows as `d`. -/
def knownAs (w : Session) (d : Driver.Statement) : Nat :=
  w.numbers.countP fun s => w.driverOf? s == some d

/-- Different statements that the driver knows as `d` are at most as many as there are. -/
theorem countP_le_knownAs (w : Session) (d : Driver.Statement) {l : List Nat} (hl : l.Nodup) :
    (l.countP fun s => w.driverOf? s == some d) ≤ w.knownAs d := by
  unfold knownAs
  rw [List.countP_eq_length_filter, List.countP_eq_length_filter]
  refine ((hl.filter _).subperm ?_).length_le
  intro s hs
  obtain ⟨-, hd⟩ := List.mem_filter.1 hs
  obtain ⟨statement, hget, -⟩ := Option.map_eq_some_iff.1 (eq_of_beq hd)
  refine List.mem_filter.2 ⟨?_, hd⟩
  rw [numbers, List.mem_range'_1]
  exact (w.statements.isSome_get?_iff s).1 (by rw [hget]; rfl)

theorem knownAs_move_of_none [Scheduler] {w : Session} {m : Move} (hm : m.adopted? = none)
    (d : Driver.Statement) : (w.move m).knownAs d = w.knownAs d := by
  have hsize : (w.move m).statements.size = w.statements.size := by
    refine Roster.size_eq_of_isSome ?_
    intro s
    rw [get?_statements_move_of_none w hm, Option.isSome_map]
  have hdriver : (w.move m).driverOf? = w.driverOf? := by
    funext s
    rw [driverOf?_move, hm]
    split
    · rename_i hs
      rw [hs]
      unfold driverOf?
      rw [Roster.get?_next, Option.map_none]
    · rfl
  unfold knownAs numbers
  rw [hsize, hdriver]

theorem knownAs_adopt [Scheduler] (w : Session) (c : Nat) (call : Driver.OpenCall)
    (driver d : Driver.Statement) :
    (w.move (.adopt c call driver)).knownAs d = w.knownAs d + if driver = d then 1 else 0 := by
  have hsize : (w.move (.adopt c call driver)).statements.size = w.statements.size + 1 := by
    simp [move, adopt_fields]
  have hold : ∀ s ∈ w.numbers,
      (w.move (.adopt c call driver)).driverOf? s = w.driverOf? s := by
    intro s hs
    have hne : s ≠ w.statements.next := by
      rw [numbers, List.mem_range'_1] at hs
      exact Nat.ne_of_lt hs.2
    rw [driverOf?_move, if_neg hne]
  have hnew : (w.move (.adopt c call driver)).driverOf? w.statements.next = some driver := by
    rw [driverOf?_move, if_pos rfl]
    rfl
  have hnumbers : (w.move (.adopt c call driver)).numbers = w.numbers ++ [w.statements.next] := by
    unfold numbers
    rw [hsize, List.range'_concat]
    simp [Roster.next]
  unfold knownAs
  rw [hnumbers, List.countP_append, List.countP_singleton, hnew]
  congr 1
  · refine List.countP_congr ?_
    intro s hs
    rw [hold s hs]
  · simp

/-- One for a statement that the driver has opened as `d` and that has no number yet. -/
def owed (pending : Option Driver.Statement) (d : Driver.Statement) : Nat :=
  if pending = some d then 1 else 0

theorem owed_none (d : Driver.Statement) : owed none d = 0 := rfl

theorem owed_some (driver d : Driver.Statement) :
    owed (some driver) d = if driver = d then 1 else 0 := by
  simp [owed]

/-- Every statement was opened by an event with its label in its journal, and so was the one that
is pending. -/
def Backed (pending : Option Driver.Statement) (w : Session) : Prop :=
  ∀ j label, w.knownAs ⟨label, j⟩ + owed pending ⟨label, j⟩ ≤ openings label (w.eventsOf j)

theorem Backed.settled {pending : Option Driver.Statement} {w : Session}
    (h : Backed pending w) : Backed none w := by
  intro j label
  have hle := h j label
  rw [owed_none]
  omega

theorem backed_move [Scheduler] {pending : Option Driver.Statement} {w : Session}
    (h : Backed pending w) {m : Move} (hm : m.adopted? = none) : Backed pending (w.move m) := by
  intro j label
  have hle := h j label
  rw [knownAs_move_of_none hm, eventsOf_move, openings_append]
  omega

theorem backed_adopt [Scheduler] {w : Session} {driver : Driver.Statement}
    (h : Backed (some driver) w)
    (c : Nat) (call : Driver.OpenCall) : Backed none (w.move (.adopt c call driver)) := by
  intro j label
  have hle := h j label
  rw [owed_some] at hle
  rw [knownAs_adopt, eventsOf_move, openings_append, owed_none]
  omega

/-- A call that opens a statement records the opening in the journal of its link. -/
theorem backed_callOpen [Scheduler] {w : Session} (h : Backed none w) (hlinked : w.Linked) {c : Nat}
    {conn : Connection} (hc : w.connections.get? c = some conn) (call : Driver.OpenCall) :
    Backed ((w.wire conn).openStatement call).2.toOption (w.move (.callOpen c call)) := by
  obtain ⟨journal, hjournal⟩ := Option.isSome_iff_exists.1 (hlinked c conn hc)
  have hwire : w.wire conn = ⟨conn.link, journal⟩ := by
    unfold wire
    rw [hjournal]
    rfl
  have hmove := backed_move h (m := .callOpen c call) rfl
  rw [hwire]
  cases hnext : journal.nextError with
  | some e =>
    have hfailed : (Driver.Wire.openStatement ⟨conn.link, journal⟩ call).2 = .error e := by
      simp [Driver.Wire.openStatement, Driver.Journal.takeNextError, hnext]
    rw [hfailed]
    exact hmove
  | none =>
    have hopened : (Driver.Wire.openStatement ⟨conn.link, journal⟩ call).2 =
        .ok ⟨call.label conn.link, conn.link.journal⟩ := by
      simp [Driver.Wire.openStatement, Driver.Journal.takeNextError, hnext]
    have hone : openings (call.label conn.link)
        (w.recorded (.callOpen c call) conn.link.journal) = 1 := by
      unfold recorded
      rw [hjournal]
      simp only [Option.map_some, Option.getD_some, addedEvents, calledEvents, hc,
        Option.filter_some, beq_self_eq_true, if_true, Driver.Wire.opening, hnext,
        Option.isNone_none]
      cases call <;> simp [openings, Driver.OpenCall.event, Driver.Event.opened?]
    rw [hopened]
    intro j label
    have hle := h j label
    rw [owed_none] at hle
    rw [knownAs_move_of_none rfl, eventsOf_move, openings_append, Except.toOption, owed_some]
    split
    · rename_i hsame
      obtain ⟨rfl, rfl⟩ := Driver.Statement.mk.inj hsame
      omega
    · omega

/-! ## Runs -/

section

variable [Scheduler]

theorem backed_trail_of_none {pending : Option Driver.Statement} {w : Session}
    (h : Backed pending w) {ms : List Move} (hms : ∀ m ∈ ms, m.adopted? = none) :
    Backed pending (w.moveAll ms) ∧ ∀ x ∈ w.trail ms, Backed pending (x.1.move x.2) := by
  obtain ⟨hend, htrail⟩ := moveAll_induction (P := Backed pending)
    (fun x hx hp => backed_move hp (hms x.2 (mem_of_mem_trail hx))) h
  exact ⟨hend, fun x hx => backed_move (htrail x hx) (hms x.2 (mem_of_mem_trail hx))⟩

/-- What the driver has opened is given its number at the end of the call, or is lost. -/
theorem backed_opened {w u : Session} {c : Nat} {conn : Connection} {call : Driver.OpenCall}
    (h : Backed ((w.wire conn).openStatement call).2.toOption u) :
    Backed none (u.moveAll (w.openedMoves c conn call)) ∧
      ∀ x ∈ u.trail (w.openedMoves c conn call), Backed none (x.1.move x.2) := by
  unfold openedMoves
  split
  · exact ⟨h.settled, by simp [trail]⟩
  · exact backed_trail_of_none h.settled (by simp [Move.adopted?])
  · rename_i driver _ hresult
    rw [hresult] at h
    have hadopted := backed_adopt h c call
    refine ⟨hadopted, ?_⟩
    intro x hx
    obtain rfl := List.mem_singleton.1 hx
    exact hadopted

theorem backed_openStatement {w : Session} (h : Backed none w) (hlinked : w.Linked) (c : Nat)
    (call : Driver.OpenCall) :
    Backed none (w.moveAll (w.moves (.connection c (.openStatement call)))) ∧
      ∀ x ∈ w.trail (w.moves (.connection c (.openStatement call))),
        Backed none (x.1.move x.2) := by
  rcases openStatement_cases w c call with hnone | ⟨conn, hc, -, -, hmoves⟩
  · rw [hnone]
    exact ⟨h, by simp [trail]⟩
  · have hcalled := backed_callOpen h hlinked hc call
    have hstill : ∀ m ∈ askedMoves c conn.closesOnOpen, m.adopted? = none := by
      unfold askedMoves
      split <;> simp [Move.adopted?]
    obtain ⟨hasked, haskedTrail⟩ := backed_trail_of_none hcalled hstill
    obtain ⟨hopened, hopenedTrail⟩ := backed_opened hasked
    rw [hmoves, moveAll_cons, moveAll_append]
    refine ⟨hopened, ?_⟩
    intro x hx
    rw [trail, trail_append] at hx
    rcases List.mem_cons.1 hx with rfl | hx
    · exact hcalled.settled
    · rcases List.mem_append.1 hx with hx | hx
      · exact (haskedTrail x hx).settled
      · exact hopenedTrail x hx

theorem backed_step {w : Session} (h : Backed none w) (hlinked : w.Linked) (op : Op) :
    Backed none (w.step op).1 ∧ ∀ x ∈ w.trail (w.moves op), Backed none (x.1.move x.2) := by
  rw [step_eq_moves]
  by_cases hopen : ∃ c call, op = .connection c (.openStatement call)
  · obtain ⟨c, call, rfl⟩ := hopen
    exact backed_openStatement h hlinked c call
  · -- nothing else gives out numbers
    refine backed_trail_of_none h ?_
    intro m hm
    obtain ⟨u, hx⟩ := exists_trail_of_mem hm
    have hensured := ensured_moves w op _ hx
    cases m with
    | adopt c call driver => exact absurd ⟨c, call, hensured⟩ hopen
    | _ => rfl

theorem backed_run {w : Session} (h : Backed none w) (hlinked : w.Linked) (ops : List Op) :
    Backed none (w.run ops) := by
  induction ops generalizing w with
  | nil => exact h
  | cons op ops ih => exact ih (backed_step h hlinked op).1 (linked_run hlinked [op])

theorem backed_history {ops : List Op} {x : Session × Move} (hx : x ∈ history {} ops) :
    Backed none (x.1.move x.2) := by
  obtain ⟨before, op, after, rfl, htrail⟩ := mem_history.1 hx
  have hstart : Backed none {} := by
    intro j label
    exact Nat.zero_le _
  have hlinked : Linked {} := by simp [Linked]
  exact (backed_step (backed_run hstart hlinked before) (linked_run hlinked before) op).2 x htrail

/-- At any time a journal records at most as many closes with a label as openings. -/
theorem closings_le_openings {ops : List Op} {x : Session × Move} (hx : x ∈ history {} ops)
    (j : Nat) (label : String) :
    closings label ((x.1.move x.2).eventsOf j) ≤ openings label ((x.1.move x.2).eventsOf j) := by
  obtain ⟨before, after, hsplit⟩ := List.append_of_mem hx
  have hreached : x.1.move x.2 = moveAll {} (before.map (·.2) ++ [x.2]) := by
    rw [moveAll_append, ← (history_split hsplit).2]
    rfl
  have hbacked := backed_history hx j label
  rw [hreached] at hbacked ⊢
  have hclosings := closings_trail_le {} (before.map (·.2) ++ [x.2]) j label
  have hasks := countP_le_knownAs (moveAll {} (before.map (·.2) ++ [x.2])) ⟨label, j⟩
    (asksOf_trail {} (before.map (·.2) ++ [x.2])).1
  have hstart : closings label (eventsOf {} j) = 0 := rfl
  omega

/-- Every prefix of every journal has an opening for every close. -/
def Balanced (w : Session) : Prop :=
  ∀ j label n, closings label ((w.eventsOf j).take n) ≤ openings label ((w.eventsOf j).take n)

theorem balanced_move {w : Session} (hw : w.Balanced) {m : Move}
    (htotal : ∀ j label, closings label ((w.move m).eventsOf j) ≤
      openings label ((w.move m).eventsOf j)) : (w.move m).Balanced := by
  intro j label n
  have hbefore := hw j label n
  have hafter := htotal j label
  rw [eventsOf_move, closings_append, openings_append] at hafter
  rw [eventsOf_move, List.take_append, closings_append, openings_append]
  have hmore := closings_take_le label (w.recorded m j) (n - (w.eventsOf j).length)
  cases hm : m.isClose with
  | false =>
    rw [closings_eq_zero (closeTried?_of_recorded hm)] at hmore
    omega
  | true =>
    rw [openings_eq_zero (opened?_of_recorded hm)] at hafter
    by_cases hn : n ≤ (w.eventsOf j).length
    · rw [Nat.sub_eq_zero_of_le hn, List.take_zero]
      exact Nat.add_le_add hbefore (Nat.le_refl 0)
    · -- the prefix goes on into the closes, so it has all the openings there are
      rw [List.take_of_length_le (by omega)] at hbefore ⊢
      omega

theorem balanced_run (ops : List Op) : (run {} ops).Balanced := by
  refine (run_induction ?_ ?_).1
  · intro x hx hbalanced
    exact balanced_move hbalanced (closings_le_openings hx)
  · intro j label n
    simp [eventsOf, closings]

/-! ## The law -/

/-- What becomes of the driver's statements in the run `ops`. -/
structure ClosedOnce (ops : List Op) : Prop where
  /-- The driver is asked at most once to close a statement, … -/
  once : (asksIn {} ops).Nodup
  /-- … and the statement is closed if and only if it was asked. -/
  asked : ∀ s, Ended s (run {} ops) ↔ s ∈ asksIn {} ops
  /-- A closed statement stays closed, and the driver is not asked about it again. -/
  stays : ∀ s, Ended s (run {} ops) → ∀ later,
    Ended s (run {} (ops ++ later)) ∧ s ∉ asksIn (run {} ops) later
  /-- Using it is refused. -/
  refused : ∀ s statement failure, Ended s (run {} ops) →
    (run {} ops).heldStatement? s = some statement →
      (run {} ops).step (.statement s (.use failure)) =
        (run {} ops, .outcome (.err (.statementClosed s)))
  /-- Closing it succeeds without the driver. -/
  again : ∀ s statement, Ended s (run {} ops) →
    (run {} ops).heldStatement? s = some statement →
      ((run {} ops).step (.statement s .close)).2 = .ok .unit ∧
        ((run {} ops).step (.statement s .close)).1.journals = (run {} ops).journals ∧
        asksIn (run {} ops) [.statement s .close] = []
  /-- In every prefix of every journal the closes with a label, successful or not, are at most as
  many as the openings with that label. -/
  balanced : (run {} ops).Balanced

theorem closed_once (ops : List Op) : ClosedOnce ops where
  once := (asksIn_run {} ops).1
  asked := by
    intro s
    have hstart : ¬ Ended s {} := by simp [Ended]
    rw [(asksIn_run {} ops).2.1, or_iff_right hstart]
  stays := by
    intro s hended later
    rw [run_append]
    exact ⟨ended_run hended later, fun hs => (asksIn_run _ later).2.2 s hs hended⟩
  refused := fun s statement failure hended hheld => hended.step_use hheld failure
  again := fun s statement hended hheld =>
    ⟨hended.step_close hheld, hended.journals_step_close, hended.asksIn_close⟩
  balanced := balanced_run ops

end

section

attribute [local instance] Scheduler.exact

/-- Two statements with the same label on one journal, the first registered twice more with the
connection of the second. The driver fails to close either, and is asked once for each. -/
example :
    let ops : List Op :=
      [.newPool .recycling, .pool 0 (.connect none), .pool 0 (.connect (some 1)),
        .connection 1 (.openStatement (.prepare "A" {})),
        .connection 2 (.openStatement (.prepare "A" {})),
        .script 1 (.failClose "A" { message := "busy" }),
        .connection 2 (.register 1), .connection 2 (.register 1), .connection 2 .close,
        .statement 1 .close, .connection 1 .close]
    asksIn {} ops = [1, 2] ∧ closings "A" ((run {} ops).eventsOf 0) = 2 ∧
      openings "A" ((run {} ops).eventsOf 0) = 2 := by
  decide

end

end Session

end ConnLease
