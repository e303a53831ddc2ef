import Mathlib.Data.List.Induction
import ConnLease.Proofs.Session.Errors

/-!
# One event for each broken connection

Two operations set the broken flag of a connection, by hand and for a fatal error, and each logs
that only when it finds the flag unset. So the log of a session tells of each broken connection
once, in the step that broke it, and never of another one. When a step shows several fatal errors to
a connection, as the sweep of a close can, the event is about the first of them.

Main statement: `breaks_once`.
-/

namespace ConnLease

/-- The event tells that the connection `c` broke, by hand or for a fatal error. -/
def LogEvent.tellsBreak (e : LogEvent) (c : Nat) : Bool :=
  e.connection? == some c &&
    (e.message == "connection marked broken" ||
      e.message == "fatal driver error; connection will be discarded")

theorem LogEvent.tellsBreak_eq (e : LogEvent) (c : Nat) :
    e.tellsBreak c =
      match e with
      | .markedBroken d | .fatalError d _ => d == c
      | _ => false := by
  cases e <;> simp [tellsBreak, connection?, message]

namespace Session

/-- The events so far that tell of the connection `c` breaking. -/
def breakEvents (w : Session) (c : Nat) : List LogEvent := w.log.filter (·.tellsBreak c)

theorem breakEvents_congr {w w' : Session} (h : w'.log = w.log) (c : Nat) :
    w'.breakEvents c = w.breakEvents c := by
  rw [breakEvents, h, breakEvents]

theorem breakEvents_append {w w' : Session} {events : List LogEvent}
    (h : w'.log = w.log ++ events) (c : Nat) :
    w'.breakEvents c = w.breakEvents c ++ events.filter (·.tellsBreak c) := by
  rw [breakEvents, h, List.filter_append, breakEvents]

@[simp]
theorem breakEvents_onConnection (w : Session) (d : Nat) (f : Connection → Connection) (c : Nat) :
    (w.onConnection d f).breakEvents c = w.breakEvents c := rfl

theorem breakEvents_emit (w : Session) (e : LogEvent) (c : Nat) :
    (w.emit e).breakEvents c = w.breakEvents c ++ if e.tellsBreak c then [e] else [] := by
  rw [breakEvents_append rfl]
  cases h : e.tellsBreak c <;> simp [h]

/-- An event about anything else changes nothing here. -/
theorem breakEvents_emit_of_silent {w : Session} {e : LogEvent} {c : Nat}
    (h : e.tellsBreak c = false) : (w.emit e).breakEvents c = w.breakEvents c := by
  rw [breakEvents_emit, h]
  exact List.append_nil _

/-! ## Operations that tell of no break -/

section Silent

variable (w : Session) (c d : Nat)

theorem breakEvents_create (p : Nat) (config : LeaseConfig) (journal : Option Nat) (held : Bool) :
    (w.newConnection p config journal held).1.breakEvents c = w.breakEvents c := by
  cases journal <;> exact breakEvents_emit_of_silent (LogEvent.tellsBreak_eq _ _)

theorem breakEvents_evict (p : Nat) : (w.evict p).1.breakEvents c = w.breakEvents c := by
  unfold evict
  split <;> rfl

theorem breakEvents_revive : (w.revive d).breakEvents c = w.breakEvents c := by
  unfold revive
  split
  · rfl
  · exact breakEvents_emit_of_silent (LogEvent.tellsBreak_eq _ _)

theorem breakEvents_arm [Scheduler] (threshold : Duration) (timer : Nat) :
    (w.move (.arm d threshold timer)).breakEvents c = w.breakEvents c := by
  simp only [move]
  cases ha : w.arm d threshold timer with
  | error e => rfl
  | ok w' =>
    obtain ⟨conn, watch, detector, -, -, -, rfl⟩ := arm_eq_ok_iff.1 ha
    exact breakEvents_emit_of_silent (LogEvent.tellsBreak_eq _ _)

theorem breakEvents_register (s : Nat) : (w.register d s).1.breakEvents c = w.breakEvents c := by
  unfold register
  split
  · rfl
  · exact breakEvents_emit_of_silent (LogEvent.tellsBreak_eq _ _)

theorem breakEvents_unregister (s : Nat) :
    (w.unregister d s).breakEvents c = w.breakEvents c := by
  unfold unregister
  repeat' split
  · rfl
  · rfl
  · rfl
  · exact breakEvents_emit_of_silent (LogEvent.tellsBreak_eq _ _)

theorem breakEvents_adopt (call : Driver.OpenCall) (driver : Driver.Statement) :
    (w.adopt d call driver).1.breakEvents c = w.breakEvents c := by
  rw [adopt_fst]
  dsimp only
  split
  · exact breakEvents_emit_of_silent (LogEvent.tellsBreak_eq _ _)
  · exact breakEvents_register _ c d _

theorem breakEvents_cancelCheck : (w.cancelCheck d).breakEvents c = w.breakEvents c := by
  unfold cancelCheck
  split
  · rfl
  · dsimp only
    split
    · exact breakEvents_emit_of_silent (LogEvent.tellsBreak_eq _ _)
    · rfl

theorem breakEvents_drain : (w.drain d).1.breakEvents c = w.breakEvents c := by
  unfold drain
  split <;> rfl

theorem breakEvents_release : (w.release d).breakEvents c = w.breakEvents c := by
  have hgone : (w.emit (.ownerGone d)).breakEvents c = w.breakEvents c :=
    breakEvents_emit_of_silent (LogEvent.tellsBreak_eq _ _)
  unfold release
  split
  · rfl
  · rename_i conn _
    split
    · rename_i pool _
      split
      · have hsilent : (pool.receiveEvents (w.metadata d conn)).filter (·.tellsBreak c) = [] := by
          unfold Pool.receiveEvents
          split <;> simp [LogEvent.tellsBreak_eq]
        rw [breakEvents_append rfl, hsilent, List.append_nil]
      · exact hgone
    · exact hgone

theorem breakEvents_operate [Scheduler] (op : Leak.TimerOp) :
    (w.move (.timer op)).breakEvents c = w.breakEvents c := by
  have hsilent : ∀ e ∈ (w.watch.operate op).2.2, e.tellsBreak c = false := by
    intro e he
    cases op with
    | newTimer reporter => cases he
    | shutDown timer | inspect timer | closeChannel timer =>
      simp only [Leak.Watch.operate] at he
      split at he
      · cases he
      · first
          | cases he; done
          | (obtain rfl := List.mem_singleton.1 he; exact LogEvent.tellsBreak_eq _ _)
    | settle millis =>
      obtain ⟨report, -, he⟩ := List.mem_flatMap.1 he
      unfold Leak.Report.events at he
      split at he
      · cases he
      · cases he
      · obtain rfl := List.mem_singleton.1 he
        exact LogEvent.tellsBreak_eq _ _
      · obtain rfl := List.mem_singleton.1 he
        exact LogEvent.tellsBreak_eq _ _
  rw [breakEvents_append rfl, List.filter_eq_nil_iff.2 (by simpa using hsilent), List.append_nil]

end Silent

/-! ## Operations that break -/

/-- What can break a connection: a mark, or a driver's error that it sees. -/
inductive BreakCause where
  | mark
  | error (e : DriverError)
deriving Repr, DecidableEq

namespace BreakCause

/-- It does break a connection that judges errors by `k`. -/
def breaks (k : Classifier) : BreakCause → Bool
  | mark => true
  | error e => (k.judge e).isFatal

/-- The event that tells of the break. -/
def event (c : Nat) : BreakCause → LogEvent
  | mark => .markedBroken c
  | error e => .fatalError c e

end BreakCause

/-- Of some causes that come one after the other, the one that breaks the connection `c`: the first
that can, unless the connection is broken already. -/
def breaker? (w : Session) (c : Nat) (causes : List BreakCause) : Option BreakCause :=
  (w.connections.get? c).bind fun conn =>
    if conn.broken then none else causes.find? (·.breaks conn.classifier)

theorem breaker?_eq {w : Session} {c : Nat} {conn : Connection}
    (hc : w.connections.get? c = some conn) (causes : List BreakCause) :
    w.breaker? c causes =
      if conn.broken then none else causes.find? (·.breaks conn.classifier) := by
  rw [breaker?, hc]
  rfl

@[simp]
theorem breaker?_nil (w : Session) (c : Nat) : w.breaker? c [] = none := by
  unfold breaker?
  cases w.connections.get? c with
  | none => rfl
  | some conn => cases conn.broken <;> simp

/-- The events that tell of the break of `c`, if some causes break it. -/
def tellings (w : Session) (c : Nat) (causes : List BreakCause) : List LogEvent :=
  (w.breaker? c causes).toList.map (·.event c)

@[simp]
theorem tellings_nil (w : Session) (c : Nat) : w.tellings c [] = [] := by
  rw [tellings, breaker?_nil]
  rfl

theorem tellings_congr {w w' : Session} {c : Nat} {conn conn' : Connection}
    (hc : w.connections.get? c = some conn) (hc' : w'.connections.get? c = some conn')
    (hk : conn'.classifier = conn.classifier) (hb : conn'.broken = conn.broken)
    (causes : List BreakCause) : w'.tellings c causes = w.tellings c causes := by
  rw [tellings, tellings, breaker?_eq hc, breaker?_eq hc', hk, hb]

/-- The record of a connection after some causes, as far as later ones go. -/
structure HasMet (conn : Connection) (causes : List BreakCause) (conn' : Connection) : Prop where
  classifier : conn'.classifier = conn.classifier
  broken : conn'.broken = (conn.broken || causes.any (·.breaks conn.classifier))

/-- What breaks the connection is among the first causes or among the later ones, and never in
both. -/
theorem tellings_append {w w' : Session} {c : Nat} {conn conn' : Connection}
    {causes : List BreakCause} (hc : w.connections.get? c = some conn)
    (hc' : w'.connections.get? c = some conn') (hmet : HasMet conn causes conn')
    (more : List BreakCause) :
    w.tellings c (causes ++ more) = w.tellings c causes ++ w'.tellings c more := by
  simp only [tellings, breaker?_eq hc, breaker?_eq hc', hmet.broken, hmet.classifier,
    ← List.map_append]
  congr 1
  cases hb : conn.broken with
  | true => rfl
  | false =>
    rw [if_neg Bool.false_ne_true, if_neg Bool.false_ne_true, List.find?_append, Bool.false_or]
    cases hf : causes.find? (·.breaks conn.classifier) with
    | none =>
      have hnone : causes.any (·.breaks conn.classifier) = false := by simpa using hf
      simp [hnone]
    | some cause =>
      have hsome : causes.any (·.breaks conn.classifier) = true :=
        List.any_eq_true.2 ⟨cause, List.mem_of_find?_eq_some hf, List.find?_some hf⟩
      simp [hsome]

theorem breakEvents_markBroken {w : Session} {c : Nat} {conn : Connection}
    (hc : w.connections.get? c = some conn) :
    (w.markBroken c).breakEvents c = w.breakEvents c ++ w.tellings c [.mark] := by
  unfold markBroken
  rw [hc, tellings, breaker?_eq hc]
  dsimp only
  cases hb : conn.broken with
  | true => simp
  | false =>
    rw [if_neg Bool.false_ne_true, breakEvents_emit, LogEvent.tellsBreak_eq]
    simp [BreakCause.breaks, BreakCause.event]

theorem breakEvents_markBroken_of_ne {w : Session} {c d : Nat} (hd : d ≠ c) :
    (w.markBroken d).breakEvents c = w.breakEvents c := by
  unfold markBroken
  split
  · split
    · rfl
    · exact breakEvents_emit_of_silent (by simp [LogEvent.tellsBreak_eq, hd])
  · rfl

theorem breakEvents_inspect {w : Session} {c : Nat} {conn : Connection}
    (hc : w.connections.get? c = some conn) (e : DriverError) :
    (w.inspect c e).breakEvents c = w.breakEvents c ++ w.tellings c [.error e] := by
  unfold inspect
  rw [hc, tellings, breaker?_eq hc]
  dsimp only
  cases hf : (conn.classifier.judge e).isFatal <;> cases hb : conn.broken
  case true.false =>
    rw [if_pos (by rfl), breakEvents_emit, LogEvent.tellsBreak_eq]
    simp [BreakCause.breaks, BreakCause.event, hf]
  all_goals simp [BreakCause.breaks, hf]

theorem breakEvents_inspect_of_ne {w : Session} {c d : Nat} (hd : d ≠ c) (e : DriverError) :
    (w.inspect d e).breakEvents c = w.breakEvents c := by
  unfold inspect
  split
  · split
    · exact breakEvents_emit_of_silent (by simp [LogEvent.tellsBreak_eq, hd])
    · rfl
  · rfl

theorem breakEvents_noteFailure {w : Session} {c : Nat} {conn : Connection}
    (hc : w.connections.get? c = some conn) (s : Nat) (e : DriverError) :
    (w.noteFailure c s e).breakEvents c = w.breakEvents c ++ w.tellings c [.error e] :=
  (breakEvents_emit_of_silent (LogEvent.tellsBreak_eq _ _)).trans (breakEvents_inspect hc e)

theorem breakEvents_noteFailure_of_ne {w : Session} {c d : Nat} (hd : d ≠ c) (s : Nat)
    (e : DriverError) : (w.noteFailure d s e).breakEvents c = w.breakEvents c :=
  (breakEvents_emit_of_silent (LogEvent.tellsBreak_eq _ _)).trans (breakEvents_inspect_of_ne hd e)

/-! ## The sweep of a close -/

theorem closeAtDriver_log (w : Session) (s : Nat) : (w.closeAtDriver s).1.log = w.log :=
  (closeAtDriver_fields w s).2.2.2

/-- What a sweep over a list shows the connection that it is made for. -/
def sweepCauses (w : Session) (l : List Nat) : List BreakCause :=
  (w.failures l).map fun f => .error f.2

theorem failures_cons_of_panic {w : Session} {s : Nat} (ho : w.isOpenStatement s = true)
    (hp : w.panicsOnClose s = true) (l : List Nat) : w.failures (s :: l) = [] := by
  have hdue := due_cons_of_open ho _ (isOpenStatement_closeAtDriver w s) l
  simp [failures, completed, hdue, hp]

/-- The sweep over a list tells of a break for the first of its failures that is fatal. -/
theorem breakEvents_sweep {w : Session} {c : Nat} {conn : Connection}
    (hc : w.connections.get? c = some conn) (l : List Nat) :
    (w.sweep c l).1.breakEvents c = w.breakEvents c ++ w.tellings c (w.sweepCauses l) := by
  induction l generalizing w conn with
  | nil => simp [sweep, sweepCauses, failures, completed, due]
  | cons s l ih =>
    cases ho : w.isOpenStatement s with
    | false =>
      have hsame : w.sweepCauses (s :: l) = w.sweepCauses l := by
        simp only [sweepCauses, failures, completed, due_cons_of_not_open ho]
      rw [sweep, closeAtDriver_of_not_open ho, hsame]
      exact ih hc
    | true =>
      have hsnd := closeAtDriver_snd ho
      have hsplit : w.closeAtDriver s = ((w.closeAtDriver s).1, (w.closeAtDriver s).2) := rfl
      have hlog := breakEvents_congr (closeAtDriver_log w s) c
      have hc₁ : (w.closeAtDriver s).1.connections.get? c = some conn := by
        rw [(closeAtDriver_fields w s).2.2.1, hc]
      cases hf : w.closeFault? s with
      | none =>
        have hrest : w.sweepCauses (s :: l) = (w.closeAtDriver s).1.sweepCauses l := by
          rw [sweepCauses, (closedOne_of_closed c ho hf).failures_cons, closeError?, hf]
          rfl
        rw [hf] at hsnd
        rw [sweep, hsplit, hsnd, hrest]
        dsimp only
        rw [ih hc₁, hlog, tellings_congr hc hc₁ rfl rfl]
      | some fault =>
        cases fault with
        | failed e =>
          let noted := (w.closeAtDriver s).1.noteFailure c s e
          have hcauses : w.sweepCauses (s :: l) = [.error e] ++ noted.sweepCauses l := by
            rw [sweepCauses, (closedOne_of_failed c ho hf).failures_cons, closeError?, hf]
            rfl
          have hc₂ : noted.connections.get? c =
              some { conn with
                broken := conn.broken || (conn.classifier.judge e).isFatal } := by
            rw [noteFailure_connections, Roster.get?_modify_self, hc₁]
            rfl
          have hmet : HasMet conn [.error e]
              { conn with broken := conn.broken || (conn.classifier.judge e).isFatal } :=
            ⟨rfl, by simp [BreakCause.breaks]⟩
          have hfirst : (w.sweep c (s :: l)).1 = (noted.sweep c l).1 := by
            rw [hf] at hsnd
            rw [sweep, hsplit, hsnd]
            dsimp only
            rcases ((w.closeAtDriver s).1.noteFailure c s e).sweep c l with ⟨w', _ | label⟩ <;> rfl
          rw [hfirst, ih hc₂, breakEvents_noteFailure hc₁, hlog, hcauses,
            tellings_append hc hc₂ hmet, List.append_assoc, tellings_congr hc hc₁ rfl rfl]
        | panicked label =>
          have hp : w.panicsOnClose s = true := by simp [panicsOnClose, hf]
          rw [hf] at hsnd
          rw [sweep, hsplit, hsnd, sweepCauses, failures_cons_of_panic ho hp]
          simpa using hlog

/-- It tells nothing about other connections. -/
theorem breakEvents_sweep_of_ne {c d : Nat} (hd : d ≠ c) (w : Session) (l : List Nat) :
    (w.sweep d l).1.breakEvents c = w.breakEvents c := by
  induction l generalizing w with
  | nil => rfl
  | cons s l ih =>
    have hlog := breakEvents_congr (closeAtDriver_log w s) c
    rw [sweep]
    rcases hclosed : w.closeAtDriver s with ⟨after, _ | _ | e | label⟩ <;> rw [hclosed] at hlog
    · exact (ih after).trans hlog
    · exact (ih after).trans hlog
    · have hrest := ih (after.noteFailure d s e)
      rw [breakEvents_noteFailure_of_ne hd] at hrest
      dsimp only
      rcases hswept : (after.noteFailure d s e).sweep d l with ⟨w', _ | label⟩ <;>
        rw [hswept] at hrest <;> exact hrest.trans hlog
    · exact hlog

/-- A close up to its sweep and after it tells of no break. -/
theorem breakEvents_teardown (w : Session) (c d : Nat) :
    (w.teardown d).1.breakEvents c =
      (((w.cancelCheck d).drain d).1.sweep d ((w.cancelCheck d).drain d).2).1.breakEvents c := by
  rw [teardown_eq]
  rcases ((w.cancelCheck d).drain d).1.sweep d ((w.cancelCheck d).drain d).2 with
    ⟨w', failure | label⟩
  · exact (breakEvents_release _ c d).trans
      (breakEvents_emit_of_silent (LogEvent.tellsBreak_eq _ _))
  · exact breakEvents_release _ c d

theorem breakEvents_close {w : Session} {c : Nat} {conn : Connection}
    (hc : w.connections.get? c = some conn) (ho : conn.closed = false) :
    (w.close c).1.breakEvents c =
      w.breakEvents c ++ w.tellings c (w.sweepCauses (w.closeOrder c)) := by
  let marked := w.onConnection c fun conn => { conn with closed := true }
  let drained := ((marked.cancelCheck c).drain c).1
  have hmarked : marked.connections.get? c = some { conn with closed := true } := by
    simp [marked, hc]
  have hdrained : drained.connections.get? c =
      some { conn with closed := true, tracked := .empty } := by
    simp [drained, drain_connections, hmarked]
  have hlist : ((marked.cancelCheck c).drain c).2 = w.closeOrder c := by
    rw [drain_snd]
    simp [closeOrder, openIds, hmarked, hc]
  have hfailures : drained.failures (w.closeOrder c) = w.failures (w.closeOrder c) :=
    failures_congr (by simp [drained, marked]) (by simp [drained, marked]) _
  have hcauses : drained.sweepCauses (w.closeOrder c) = w.sweepCauses (w.closeOrder c) := by
    rw [sweepCauses, hfailures, sweepCauses]
  have hbefore : drained.breakEvents c = w.breakEvents c :=
    (breakEvents_drain _ c c).trans (breakEvents_cancelCheck marked c c)
  have hclose : w.close c = marked.teardown c := by
    unfold close
    rw [isClosed_eq hc, ho, if_neg Bool.false_ne_true]
  rw [hclose, breakEvents_teardown, hlist]
  show (drained.sweep c (w.closeOrder c)).1.breakEvents c = _
  rw [breakEvents_sweep hdrained, hbefore, hcauses, tellings_congr hc hdrained rfl rfl]

theorem breakEvents_close_of_ne {c d : Nat} (hd : d ≠ c) (w : Session) :
    (w.close d).1.breakEvents c = w.breakEvents c := by
  unfold close
  split
  · rfl
  · rw [breakEvents_teardown, breakEvents_sweep_of_ne hd, breakEvents_drain,
      breakEvents_cancelCheck]
    rfl

/-! ## One move -/

/-- What of a move can break the connection `c`, in order. -/
def moveCauses (w : Session) (c : Nat) : Move → List BreakCause
  | .markBroken d => if d = c then [.mark] else []
  | .inspect d e => if d = c then [.error e] else []
  | .close d => if d = c ∧ w.isClosed c = false then w.sweepCauses (w.closeOrder c) else []
  | _ => []

theorem mark_mem_moveCauses {w : Session} {c : Nat} {m : Move} :
    .mark ∈ w.moveCauses c m ↔ m = .markBroken c := by
  cases m with
  | markBroken d => by_cases hd : d = c <;> simp [moveCauses, hd]
  | inspect d e => by_cases hd : d = c <;> simp [moveCauses, hd]
  | close d =>
    by_cases hd : d = c ∧ w.isClosed c = false <;> simp [moveCauses, sweepCauses, hd]
  | _ => simp [moveCauses]

theorem error_mem_moveCauses {w : Session} {c : Nat} {m : Move} {e : DriverError} :
    .error e ∈ w.moveCauses c m ↔ w.Shows c m e := by
  unfold Shows
  cases m with
  | markBroken d => by_cases hd : d = c <;> simp [moveCauses, hd]
  | inspect d e' =>
    by_cases hd : d = c
    · simpa [moveCauses, hd] using eq_comm
    · simp [moveCauses, hd]
  | close d =>
    by_cases hd : d = c
    · cases ho : w.isClosed c <;> simp [moveCauses, sweepCauses, hd, ho]
    · simp [moveCauses, hd]
  | _ => simp [moveCauses]

theorem moveBreaks_iff {w : Session} {c : Nat} {k : Classifier} {m : Move} :
    w.MoveBreaks c k m ↔ ∃ cause ∈ w.moveCauses c m, cause.breaks k = true := by
  constructor
  · rintro (hmark | ⟨e, hshows, hfatal⟩)
    · exact ⟨.mark, mark_mem_moveCauses.2 hmark, rfl⟩
    · exact ⟨.error e, error_mem_moveCauses.2 hshows, hfatal⟩
  · rintro ⟨cause, hmem, hbreaks⟩
    cases cause with
    | mark => exact .inl (mark_mem_moveCauses.1 hmem)
    | error e => exact .inr ⟨e, error_mem_moveCauses.1 hmem, hbreaks⟩

theorem moveCauses_of_unaddressed {w : Session} {c : Nat} {m : Move}
    (h : m.connection? ≠ some c) : w.moveCauses c m = [] := by
  cases m with
  | markBroken d | inspect d e =>
    exact if_neg fun hd => h (by rw [Move.connection?, hd])
  | close d => exact if_neg fun hd => h (by rw [Move.connection?, hd.1])
  | _ => rfl

/-- The connection meets what the move has for it. -/
theorem exists_hasMet_move [Scheduler] {w : Session} {c : Nat} {conn : Connection}
    (hc : w.connections.get? c = some conn) (m : Move) :
    ∃ conn', (w.move m).connections.get? c = some conn' ∧
      HasMet conn (w.moveCauses c m) conn' := by
  by_cases haddressed : m.connection? = some c
  · refine ⟨w.changed m conn, ?_, changed_classifier w m conn, ?_⟩
    · rw [get?_connections_move, if_pos haddressed, hc, Option.map_some]
    · rw [Bool.eq_iff_iff, changed_broken_iff hc haddressed, moveBreaks_iff, Bool.or_eq_true,
        List.any_eq_true]
  · have hunmet : HasMet conn (w.moveCauses c m) conn :=
      ⟨rfl, by simp [moveCauses_of_unaddressed haddressed]⟩
    exact connection_move hc m hunmet fun h => absurd h haddressed

/-- The move leaves the events so far in the log, and adds some about a break only if it makes the
break itself. -/
def Move.Steady : Move → Prop
  | .restoreLog _ => False
  | .note events => ∀ e ∈ events, ∀ c, e.tellsBreak c = false
  | _ => True

theorem tellings_of_missing {w : Session} {c : Nat} (hc : w.connections.get? c = none)
    (causes : List BreakCause) : w.tellings c causes = [] := by
  rw [tellings, breaker?, hc]
  rfl

theorem breakEvents_move [Scheduler] (w : Session) {m : Move} (hm : m.Steady) (c : Nat) :
    (w.move m).breakEvents c = w.breakEvents c ++ w.tellings c (w.moveCauses c m) := by
  have hsilent : w.moveCauses c m = [] → (w.move m).breakEvents c = w.breakEvents c →
      (w.move m).breakEvents c = w.breakEvents c ++ w.tellings c (w.moveCauses c m) := by
    intro hcauses h
    rw [hcauses, tellings_nil, List.append_nil, h]
  cases m with
  | markBroken d =>
    by_cases hd : d = c
    · subst hd
      rw [moveCauses, if_pos rfl]
      cases hc : w.connections.get? d with
      | none => simp [tellings_of_missing hc, move, markBroken, hc]
      | some conn => exact breakEvents_markBroken hc
    · exact hsilent (if_neg hd) (breakEvents_markBroken_of_ne hd)
  | inspect d e =>
    by_cases hd : d = c
    · subst hd
      rw [moveCauses, if_pos rfl]
      cases hc : w.connections.get? d with
      | none => simp [tellings_of_missing hc, move, inspect, hc]
      | some conn => exact breakEvents_inspect hc e
    · exact hsilent (if_neg hd) (breakEvents_inspect_of_ne hd e)
  | close d =>
    by_cases hd : d = c
    · subst hd
      cases ho : w.isClosed d with
      | true =>
        refine hsilent (if_neg (by simp [ho])) ?_
        simp only [move, close_of_isClosed ho]
      | false =>
        rw [moveCauses, if_pos ⟨rfl, ho⟩]
        cases hc : w.connections.get? d with
        | none => simp [isClosed, hc] at ho
        | some conn =>
          rw [isClosed_eq hc] at ho
          exact breakEvents_close hc ho
    · exact hsilent (if_neg fun h => hd h.1) (breakEvents_close_of_ne hd w)
  | restoreLog log => exact hm.elim
  | note events =>
    refine hsilent rfl ?_
    rw [breakEvents_append rfl, List.filter_eq_nil_iff.2 (by simpa using fun e he => hm e he c),
      List.append_nil]
  | timer op => exact hsilent rfl (breakEvents_operate w c op)
  | create p config journal held => exact hsilent rfl (breakEvents_create w c p config journal held)
  | evict p => exact hsilent rfl (breakEvents_evict w c p)
  | revive d => exact hsilent rfl (breakEvents_revive w c d)
  | arm d threshold timer => exact hsilent rfl (breakEvents_arm w c d threshold timer)
  | register d s => exact hsilent rfl (breakEvents_register w c d s)
  | unregister d s | untrack d s => exact hsilent rfl (breakEvents_unregister w c d s)
  | adopt d call driver => exact hsilent rfl (breakEvents_adopt w c d call driver)
  | closeAtDriver s => exact hsilent rfl (breakEvents_congr (closeAtDriver_log w s) c)
  | lend d | reassign d p =>
    exact hsilent rfl (breakEvents_emit_of_silent (LogEvent.tellsBreak_eq _ _))
  | callOpen d call | callPlain d call =>
    refine hsilent rfl ?_
    simp only [move]
    split <;> rfl
  | _ => exact hsilent rfl rfl

/-! ## All moves of a list -/

/-- What of some moves can break the connection `c`, in order. -/
def causes [Scheduler] (w : Session) (c : Nat) (ms : List Move) : List BreakCause :=
  (w.trail ms).flatMap fun x => x.1.moveCauses c x.2

theorem mem_causes [Scheduler] {w : Session} {c : Nat} {ms : List Move} {cause : BreakCause} :
    cause ∈ w.causes c ms ↔ ∃ x ∈ w.trail ms, cause ∈ x.1.moveCauses c x.2 :=
  List.mem_flatMap

theorem breakEvents_moveAll [Scheduler] {w : Session} {c : Nat} {conn : Connection} {ms : List Move}
    (hc : w.connections.get? c = some conn) (hms : ∀ m ∈ ms, m.Steady) :
    (w.moveAll ms).breakEvents c = w.breakEvents c ++ w.tellings c (w.causes c ms) := by
  induction ms generalizing w conn with
  | nil => simp [causes, trail]
  | cons m ms ih =>
    obtain ⟨conn', hc', hmet⟩ := exists_hasMet_move hc m
    have hcauses : w.causes c (m :: ms) = w.moveCauses c m ++ (w.move m).causes c ms := rfl
    rw [moveAll_cons, ih hc' fun n hn => hms n (List.mem_cons_of_mem _ hn),
      breakEvents_move w (hms m (List.mem_cons_self ..)), hcauses, tellings_append hc hc' hmet,
      List.append_assoc]

/-- The log has one event for the connection `c` if it is broken, and none if it is not. -/
def ToldOnce (w : Session) (c : Nat) : Prop :=
  (w.breakEvents c).length = if w.isBroken c then 1 else 0

theorem isBroken_of_breaker? {w : Session} {c : Nat} {causes : List BreakCause}
    {cause : BreakCause} (h : w.breaker? c causes = some cause) : w.isBroken c = false := by
  cases hc : w.connections.get? c with
  | none => simp [breaker?, hc] at h
  | some conn =>
    rw [isBroken_eq hc]
    cases hb : conn.broken with
    | true => simp [breaker?_eq hc, hb] at h
    | false => rfl

/-- A move sets the flag exactly if one of its causes breaks the connection. -/
theorem isBroken_move_eq [Scheduler] (w : Session) (m : Move) (c : Nat) :
    (w.move m).isBroken c = (w.isBroken c || (w.breaker? c (w.moveCauses c m)).isSome) := by
  cases hc : w.connections.get? c with
  | none =>
    have hnot : ¬ ∃ k, w.JudgesBy c k ∧ w.MoveBreaks c k m := by
      rintro ⟨k, ⟨conn, hconn, -⟩, -⟩
      rw [hc] at hconn
      cases hconn
    rw [Bool.eq_iff_iff, isBroken_move_iff, or_iff_left hnot]
    simp [breaker?, hc]
  | some conn =>
    obtain ⟨conn', hc', hmet⟩ := exists_hasMet_move hc m
    rw [isBroken_eq hc', isBroken_eq hc, hmet.broken, breaker?_eq hc]
    cases conn.broken with
    | true => rfl
    | false =>
      rw [Bool.eq_iff_iff]
      simp

theorem ToldOnce.move [Scheduler] {w : Session} {c : Nat} (h : w.ToldOnce c) {m : Move}
    (hm : m.Steady) : (w.move m).ToldOnce c := by
  unfold ToldOnce at h ⊢
  rw [breakEvents_move w hm, List.length_append, h, isBroken_move_eq, tellings]
  cases hbreaker : w.breaker? c (w.moveCauses c m) with
  | none => simp
  | some cause => simp [isBroken_of_breaker? hbreaker]

/-! ## One operation -/

/-- Threads that close one connection at the same time: what they log has no order. -/
def Op.closesConcurrently : Op → Bool
  | .connection _ (.closeConcurrently _) => true
  | _ => false

theorem steady_parseEvents (text : String) : (Move.note (LeaseConfig.parseEvents text)).Steady := by
  intro e he c
  obtain ⟨setting, -, he⟩ := List.mem_flatMap.1 he
  cases setting with
  | unknown key value =>
    obtain rfl := List.mem_singleton.1 he
    exact LogEvent.tellsBreak_eq _ _
  | _ => cases he

theorem steady_newPoolMoves (w : Session) (setup : PoolSetup) :
    ∀ m ∈ w.newPoolMoves setup, m.Steady := by
  cases setup with
  | recording => simp [newPoolMoves, Move.Steady]
  | recycling => simp [newPoolMoves, Move.Steady]
  | configured text timer =>
    simp only [newPoolMoves]
    split
    · simp
    · intro m hm
      rcases List.mem_cons.1 hm with rfl | hm
      · exact steady_parseEvents text
      · cases hp : LeaseConfig.parse text with
        | error e => simp [hp] at hm
        | ok config =>
          obtain rfl : m = .addPool config (some timer) true := by simpa [hp] using hm
          exact trivial

theorem steady_lifecycleMoves (c : Nat) (o : LifecycleOp) :
    ∀ m ∈ lifecycleMoves c o, m.Steady := by
  cases o <;> simp [lifecycleMoves, Move.Steady]

section

variable [Scheduler]

theorem steady_poolMoves (w : Session) (p : Nat) (pool : Pool) (o : PoolOp) :
    ∀ m ∈ w.poolMoves p pool o, m.Steady := by
  cases o with
  | connect share | connectPlain share =>
    simp only [poolMoves]
    unfold connectMoves
    split <;> simp [Move.Steady]
  | addIdle share =>
    simp only [poolMoves]
    split <;> simp [Move.Steady]
  | borrow =>
    simp only [poolMoves]
    unfold borrowMoves
    dsimp only
    repeat' split
    all_goals simp [Move.Steady]
  | idle c o =>
    simp only [poolMoves]
    split
    · simp
    · exact steady_lifecycleMoves c o
  | _ => simp [poolMoves, Move.Steady]

theorem steady_connectionMoves (w : Session) {c : Nat} {o : ConnectionOp}
    (ho : (Op.connection c o).closesConcurrently = false) :
    ∀ m ∈ w.connectionMoves c o, m.Steady := by
  cases o with
  | closeConcurrently threads => cases ho
  | openStatement call =>
    simp only [connectionMoves]
    unfold openMoves askedMoves openedMoves
    repeat' split
    all_goals simp [Move.Steady]
  | perform call =>
    simp only [connectionMoves]
    unfold performMoves
    repeat' split
    all_goals simp [Move.Steady]
  | reassign p | arm threshold timer | register s =>
    simp only [connectionMoves]
    split <;> simp [Move.Steady]
  | lifecycle o => exact steady_lifecycleMoves c o
  | _ => simp [connectionMoves, Move.Steady]

theorem steady_statementMoves {w : Session} {s : Nat} {statement : Statement} {o : StatementOp}
    (hs : w.statements.get? s = some statement) :
    ∀ m ∈ w.statementMoves s statement o, m.Steady := by
  intro m hm
  rcases statementMoves_cases hs hm with ⟨-, rfl | rfl | rfl⟩ | ⟨e, rfl⟩
  · exact trivial
  · intro e he c
    obtain rfl := List.mem_singleton.1 he
    exact LogEvent.tellsBreak_eq _ _
  · exact trivial
  · exact trivial

theorem steady_moves (w : Session) {op : Op} (hop : op.closesConcurrently = false) :
    ∀ m ∈ w.moves op, m.Steady := by
  cases op with
  | newPool setup => exact steady_newPoolMoves w setup
  | pool p o =>
    simp only [moves]
    split
    · simp
    · exact steady_poolMoves w p _ o
  | connection c o =>
    simp only [moves]
    split
    · simp
    · exact steady_connectionMoves w hop
  | statement s o =>
    simp only [moves]
    split
    · simp
    · rename_i hheld
      exact steady_statementMoves (Option.eq_some_of_filter_eq_some hheld)
  | script c line =>
    simp only [moves]
    split <;> simp [Move.Steady]
  | _ => simp [moves, Move.Steady]

/-- What of an operation can break the connection `c`, in order. -/
def causesOf (w : Session) (c : Nat) (op : Op) : List BreakCause := w.causes c (w.moves op)

theorem mark_mem_causesOf {w : Session} {c : Nat} {op : Op} :
    .mark ∈ w.causesOf c op ↔ w.Marks c op := by
  rw [← marks_iff, causesOf, mem_causes]
  constructor
  · rintro ⟨⟨u, m⟩, hx, hmark⟩
    obtain rfl := mark_mem_moveCauses.1 hmark
    exact mem_of_mem_trail hx
  · intro hmem
    obtain ⟨u, hx⟩ := exists_trail_of_mem hmem
    exact ⟨_, hx, mark_mem_moveCauses.2 rfl⟩

theorem error_mem_causesOf {w : Session} {c : Nat} {op : Op} {e : DriverError} :
    .error e ∈ w.causesOf c op ↔ w.Reports c op e := by
  rw [← reports_iff, causesOf, mem_causes]
  simp only [error_mem_moveCauses]

/-- An operation that marks does nothing else. -/
theorem causesOf_of_marks {w : Session} {c : Nat} {op : Op} (h : w.Marks c op) :
    w.causesOf c op = [.mark] := by
  have hmoves : w.moves op = [.markBroken c] := by
    have hmem := marks_iff.2 h
    obtain ⟨rfl | rfl | ⟨p, rfl⟩, -⟩ := h
    · simp only [moves] at hmem ⊢
      split at hmem
      · cases hmem
      · rfl
    · simp only [moves] at hmem ⊢
      split at hmem
      · cases hmem
      · rfl
    · simp only [moves] at hmem ⊢
      split at hmem
      · cases hmem
      · simp only [poolMoves] at hmem ⊢
        split at hmem
        · cases hmem
        · rfl
  simp [causesOf, causes, hmoves, trail, moveCauses]

/-- The operation breaks the connection `c`, and this is what does it: the connection is not broken
before, and nothing earlier in the operation can break it. -/
def BrokenBy (w : Session) (c : Nat) (op : Op) (cause : BreakCause) : Prop :=
  w.isBroken c = false ∧
    ∃ k, w.JudgesBy c k ∧ (w.causesOf c op).find? (·.breaks k) = some cause

theorem brokenBy_iff {w : Session} {c : Nat} {op : Op} {cause : BreakCause} :
    w.BrokenBy c op cause ↔ w.breaker? c (w.causesOf c op) = some cause := by
  unfold BrokenBy
  constructor
  · rintro ⟨hb, k, ⟨conn, hc, rfl⟩, hfind⟩
    rw [isBroken_eq hc] at hb
    rw [breaker?_eq hc, hb, if_neg Bool.false_ne_true, hfind]
  · intro h
    refine ⟨isBroken_of_breaker? h, ?_⟩
    cases hc : w.connections.get? c with
    | none => simp [breaker?, hc] at h
    | some conn =>
      rw [breaker?_eq hc] at h
      split at h
      · cases h
      · exact ⟨conn.classifier, ⟨conn, hc, rfl⟩, h⟩

theorem BrokenBy.unique {w : Session} {c : Nat} {op : Op} {cause cause' : BreakCause}
    (h : w.BrokenBy c op cause) (h' : w.BrokenBy c op cause') : cause = cause' :=
  Option.some.inj ((brokenBy_iff.1 h).symm.trans (brokenBy_iff.1 h'))

theorem BrokenBy.mem {w : Session} {c : Nat} {op : Op} {cause : BreakCause}
    (h : w.BrokenBy c op cause) :
    cause ∈ w.causesOf c op ∧ ∃ k, w.JudgesBy c k ∧ cause.breaks k = true := by
  obtain ⟨-, k, hk, hfind⟩ := h
  exact ⟨List.mem_of_find?_eq_some hfind, k, hk, List.find?_some hfind⟩

theorem brokenBy_mark_iff {w : Session} {c : Nat} {op : Op} :
    w.BrokenBy c op .mark ↔ w.isBroken c = false ∧ w.Marks c op := by
  constructor
  · intro h
    exact ⟨h.1, mark_mem_causesOf.1 h.mem.1⟩
  · rintro ⟨hb, hmarks⟩
    have hbreaks : w.Breaks c .standard op := .inl hmarks
    obtain ⟨k, hk⟩ := exists_judgesBy hbreaks.made
    exact ⟨hb, k, hk, by rw [causesOf_of_marks hmarks]; rfl⟩

theorem exists_brokenBy_error_iff {w : Session} {c : Nat} {op : Op} :
    (∃ e, w.BrokenBy c op (.error e)) ↔ w.isBroken c = false ∧
      ∃ k e, w.JudgesBy c k ∧ w.Reports c op e ∧ (k.judge e).isFatal = true := by
  constructor
  · rintro ⟨e, h⟩
    obtain ⟨hmem, k, hk, hfatal⟩ := h.mem
    exact ⟨h.1, k, e, hk, error_mem_causesOf.1 hmem, hfatal⟩
  · rintro ⟨hb, k, e, hk, hreports, hfatal⟩
    have hmem := error_mem_causesOf.2 hreports
    cases hfind : (w.causesOf c op).find? (·.breaks k) with
    | none => exact absurd hfatal (List.find?_eq_none.1 hfind _ hmem)
    | some cause =>
      cases cause with
      | error e' => exact ⟨e', hb, k, hk, hfind⟩
      | mark =>
        rw [causesOf_of_marks (mark_mem_causesOf.1 (List.mem_of_find?_eq_some hfind))] at hmem
        simp at hmem

theorem ToldOnce.step {w : Session} {c : Nat} (h : w.ToldOnce c) {op : Op}
    (hop : op.closesConcurrently = false) : (w.step op).1.ToldOnce c := by
  rw [step_eq_moves]
  exact (moveAll_induction (P := (·.ToldOnce c))
    (fun x hx hx₁ => hx₁.move (steady_moves w hop x.2 (mem_of_mem_trail hx))) h).1

omit [Scheduler] in
theorem ToldOnce.breakEvents_eq_nil_iff {w : Session} {c : Nat} (h : w.ToldOnce c) :
    w.breakEvents c = [] ↔ w.isBroken c = false := by
  rw [← List.length_eq_zero_iff, h]
  cases w.isBroken c <;> simp

/-- The operation that breaks a connection tells of it. -/
theorem breakEvents_of_brokenBy {w : Session} {c : Nat} {op : Op} {cause : BreakCause}
    (h : w.ToldOnce c) (hop : op.closesConcurrently = false) (hbroken : w.BrokenBy c op cause) :
    (w.step op).1.breakEvents c = [cause.event c] := by
  obtain ⟨k, ⟨conn, hc, -⟩, -⟩ := hbroken.2
  rw [step_eq_moves, breakEvents_moveAll hc (steady_moves w hop),
    h.breakEvents_eq_nil_iff.2 hbroken.1, tellings, ← causesOf, brokenBy_iff.1 hbroken]
  rfl

theorem isBroken_of_brokenBy {w : Session} {c : Nat} {op : Op} {cause : BreakCause}
    (h : w.BrokenBy c op cause) : (w.step op).1.isBroken c = true := by
  obtain ⟨hmem, k, hk, hbreaks⟩ := h.mem
  refine (isBroken_step_iff w op c).2 (.inr ⟨k, hk, ?_⟩)
  cases cause with
  | mark => exact .inl (mark_mem_causesOf.1 hmem)
  | error e => exact .inr ⟨e, error_mem_causesOf.1 hmem, hbreaks⟩

/-- The flag is set by something that the operation does. -/
theorem exists_brokenBy {w : Session} {c : Nat} {op : Op} (hbefore : w.isBroken c = false)
    (hafter : (w.step op).1.isBroken c = true) : ∃ cause, w.BrokenBy c op cause := by
  rcases (isBroken_step_iff w op c).1 hafter with h | ⟨k, hk, hmarks | ⟨e, hreports, hfatal⟩⟩
  · rw [hbefore] at h
    cases h
  · exact ⟨.mark, brokenBy_mark_iff.2 ⟨hbefore, hmarks⟩⟩
  · obtain ⟨e', he⟩ := exists_brokenBy_error_iff.2 ⟨hbefore, k, e, hk, hreports, hfatal⟩
    exact ⟨.error e', he⟩

/-- Every other operation tells of no break. -/
theorem breakEvents_step_of_not {w : Session} {c : Nat} {op : Op} (h : w.ToldOnce c)
    (hop : op.closesConcurrently = false) (hnot : ∀ cause, ¬ w.BrokenBy c op cause) :
    (w.step op).1.breakEvents c = w.breakEvents c := by
  cases hc : w.connections.get? c with
  | some conn =>
    have hnone : w.breaker? c (w.causesOf c op) = none :=
      Option.eq_none_iff_forall_not_mem.2 fun cause hcause => hnot cause (brokenBy_iff.2 hcause)
    rw [step_eq_moves, breakEvents_moveAll hc (steady_moves w hop), tellings, ← causesOf, hnone]
    exact List.append_nil _
  | none =>
    -- it can be made by the operation, but is not broken then
    have hbefore : w.isBroken c = false := by simp [isBroken, hc]
    have hafter : (w.step op).1.isBroken c = false := by
      rw [← Bool.not_eq_true]
      intro hbroken
      obtain ⟨cause, hcause⟩ := exists_brokenBy hbefore hbroken
      exact hnot cause hcause
    rw [(h.step hop).breakEvents_eq_nil_iff.2 hafter, h.breakEvents_eq_nil_iff.2 hbefore]

/-- What an operation does to the flag of the connection `c` and to the events about its break. -/
structure ToldByStep (w : Session) (op : Op) (c : Nat) : Prop where
  /-- If it sets the flag then one cause in it does, … -/
  flagged : w.isBroken c = false → (w.step op).1.isBroken c = true →
    ∃ cause, w.BrokenBy c op cause
  /-- … and the event of that cause is the only one from then on. -/
  told : ∀ cause, w.BrokenBy c op cause → w.breakEvents c = [] ∧
    (w.step op).1.isBroken c = true ∧ (w.step op).1.breakEvents c = [cause.event c]
  /-- In all other cases neither changes. -/
  silent : (∀ cause, ¬ w.BrokenBy c op cause) →
    (w.step op).1.isBroken c = w.isBroken c ∧ (w.step op).1.breakEvents c = w.breakEvents c
  /-- The cause is a mark if the operation is one. -/
  marked : w.BrokenBy c op .mark ↔ w.isBroken c = false ∧ w.Marks c op
  /-- It is an error if a fatal one is reported; if there are several, it is the first. -/
  reported : (∃ e, w.BrokenBy c op (.error e)) ↔ w.isBroken c = false ∧
    ∃ k e, w.JudgesBy c k ∧ w.Reports c op e ∧ (k.judge e).isFatal = true
  /-- The errors that are shown to the connection are those that are reported through it. -/
  shown : ∀ e, .error e ∈ w.causesOf c op ↔ w.Reports c op e

theorem toldByStep_of_toldOnce {w : Session} {c : Nat} (h : w.ToldOnce c) {op : Op}
    (hop : op.closesConcurrently = false) : ToldByStep w op c where
  flagged := exists_brokenBy
  told cause hcause := ⟨h.breakEvents_eq_nil_iff.2 hcause.1, isBroken_of_brokenBy hcause,
    breakEvents_of_brokenBy h hop hcause⟩
  silent hnot := by
    refine ⟨?_, breakEvents_step_of_not h hop hnot⟩
    cases hb : w.isBroken c with
    | true => exact isBroken_run hb [op]
    | false =>
      rw [← Bool.not_eq_true]
      intro hafter
      obtain ⟨cause, hcause⟩ := exists_brokenBy hb hafter
      exact hnot cause hcause
  marked := brokenBy_mark_iff
  reported := exists_brokenBy_error_iff
  shown _ := error_mem_causesOf

/-! ## Runs -/

section Runs

variable {ops : List Op} (hops : ∀ op ∈ ops, op.closesConcurrently = false)
include hops

theorem toldOnce_run (c : Nat) :
    (run {} ops).ToldOnce c ∧ ∀ x ∈ history {} ops, x.1.ToldOnce c := by
  refine run_induction (P := (·.ToldOnce c)) ?_ (by simp [ToldOnce, breakEvents, isBroken])
  intro x hx hx₁
  obtain ⟨before, op, after, rfl, hmem⟩ := mem_history.1 hx
  have hop := hops op (List.mem_append_right _ (List.mem_cons_self ..))
  exact hx₁.move (steady_moves _ hop x.2 (mem_of_mem_trail hmem))

theorem toldByStep_run {before after : List Op} {op : Op} (hsplit : ops = before ++ op :: after)
    (c : Nat) : ToldByStep (run {} before) op c := by
  subst hsplit
  have hbefore : ∀ o ∈ before, o.closesConcurrently = false :=
    fun o ho => hops o (List.mem_append_left _ ho)
  exact toldByStep_of_toldOnce (toldOnce_run hbefore c).1
    (hops op (List.mem_append_right _ (List.mem_cons_self ..)))

/-- The events about breaks are those of the operations that broke a connection. -/
theorem mem_breakEvents_run {c : Nat} {event : LogEvent} :
    event ∈ (run {} ops).breakEvents c ↔ ∃ before op after, ops = before ++ op :: after ∧
      ∃ cause, (run {} before).BrokenBy c op cause ∧ event = cause.event c := by
  induction ops using List.reverseRecOn with
  | nil => simp [breakEvents]
  | append_singleton ops op ih =>
    have htells := toldByStep_run hops rfl c
    rw [exists_split_snoc (P := fun before op => ∃ cause,
      (run {} before).BrokenBy c op cause ∧ event = cause.event c),
      ← ih fun o ho => hops o (List.mem_append_left _ ho), run_snoc]
    by_cases hbroken : ∃ cause, (run {} ops).BrokenBy c op cause
    · obtain ⟨cause, hcause⟩ := hbroken
      obtain ⟨hnil, -, htold⟩ := htells.told cause hcause
      rw [htold, hnil, List.mem_singleton, or_iff_right (List.not_mem_nil)]
      constructor
      · exact fun h => ⟨cause, hcause, h⟩
      · rintro ⟨cause', hcause', h⟩
        rwa [hcause.unique hcause']
    · have hnot : ¬ ∃ cause, (run {} ops).BrokenBy c op cause ∧ event = cause.event c :=
        fun ⟨cause, hcause, _⟩ => hbroken ⟨cause, hcause⟩
      rw [(htells.silent fun cause hcause => hbroken ⟨cause, hcause⟩).2, or_iff_left hnot]

/-- Once a connection is broken there is no further event. -/
theorem breakEvents_run_of_isBroken {before after : List Op} (hsplit : ops = before ++ after)
    {c : Nat} (hbroken : (run {} before).isBroken c = true) :
    (run {} ops).breakEvents c = (run {} before).breakEvents c := by
  subst hsplit
  induction after using List.reverseRecOn with
  | nil => rw [List.append_nil]
  | append_singleton after op ih =>
    rw [← List.append_assoc] at hops ⊢
    have hstill : (run {} (before ++ after)).isBroken c = true := by
      rw [run_append]
      exact isBroken_run hbroken after
    have hnot : ∀ cause, ¬ (run {} (before ++ after)).BrokenBy c op cause := by
      intro cause hcause
      rw [hcause.1] at hstill
      cases hstill
    rw [run_snoc, ((toldByStep_run hops rfl c).silent hnot).2]
    exact ih fun o ho => hops o (List.mem_append_left _ ho)

end Runs

/-! ## The law -/

/-- How the log of the run `ops` tells of broken connections. -/
structure BreaksOnce (ops : List Op) : Prop where
  /-- At its end the log has one event for each broken connection and none for another, … -/
  atEnd : ∀ c, (run {} ops).ToldOnce c
  /-- … and so it had all along, whenever an operation made a move. -/
  always : ∀ x ∈ history {} ops, ∀ c, x.1.ToldOnce c
  /-- The event comes with the operation that sets the flag, and no other operation adds one. -/
  each : ∀ before op after, ops = before ++ op :: after → ∀ c, ToldByStep (run {} before) op c
  /-- So the events are those of the causes that broke connections in the run. -/
  events : ∀ c event, event ∈ (run {} ops).breakEvents c ↔
    ∃ before op after, ops = before ++ op :: after ∧
      ∃ cause, (run {} before).BrokenBy c op cause ∧ event = cause.event c
  /-- Whatever is done to a broken connection, its event stays the only one. -/
  kept : ∀ before after c, ops = before ++ after → (run {} before).isBroken c = true →
    (run {} ops).isBroken c = true ∧ (run {} ops).breakEvents c = (run {} before).breakEvents c
  /-- A mark is told in the one form, … -/
  markForm : ∀ c, (BreakCause.mark.event c).level = .debug ∧
    (BreakCause.mark.event c).message = "connection marked broken" ∧
    (BreakCause.mark.event c).fields = [("connection_id", .number c)]
  /-- … and an error in the other, with its SQLSTATE and its text. -/
  errorForm : ∀ c e, ((BreakCause.error e).event c).level = .warn ∧
    ((BreakCause.error e).event c).message =
      "fatal driver error; connection will be discarded" ∧
    ((BreakCause.error e).event c).fields =
      [("connection_id", .number c),
        ("sql_state", .text (Text.quotedOption (e.sqlState.map (·.code)))),
        ("error", .text e.text)]

theorem breaks_once {ops : List Op} (hops : ∀ op ∈ ops, op.closesConcurrently = false) :
    BreaksOnce ops where
  atEnd c := (toldOnce_run hops c).1
  always x hx c := (toldOnce_run hops c).2 x hx
  each before op after hsplit c := toldByStep_run hops hsplit c
  events c event := mem_breakEvents_run hops
  kept before after c hsplit hbroken := by
    refine ⟨?_, breakEvents_run_of_isBroken hops hsplit hbroken⟩
    rw [hsplit, run_append]
    exact isBroken_run hbroken after
  markForm _ := ⟨rfl, rfl, rfl⟩
  errorForm _ _ := ⟨rfl, rfl, rfl⟩

end

section

attribute [local instance] Scheduler.exact

/-- The driver is gone when two statements are closed with their connection, which is marked and
revived afterwards. -/
def lostDriver : List Op :=
  [.newPool .recycling, .pool 0 (.connect none),
    .connection 1 (.openStatement (.prepare "A" {})),
    .connection 1 (.openStatement (.prepare "B" {})),
    .script 1 (.failClose "A" { message := "gone", sqlState := some ⟨"08006"⟩ }),
    .script 1 (.failClose "B" { message := "reset", sqlState := some ⟨"08003"⟩ }),
    .connection 1 .close, .connection 1 .markBroken, .connection 1 .revive]

/-- The sweep begins with the later statement, so its error is the one that is told. -/
theorem lost_driver_breaks_once :
    (run {} lostDriver).breakEvents 1 =
        [.fatalError 1 { message := "reset", sqlState := some ⟨"08003"⟩ }] ∧
      BreaksOnce lostDriver :=
  ⟨by decide, breaks_once (by decide)⟩

end

end Session

end ConnLease
