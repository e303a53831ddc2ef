import ConnLease.Leak.Notice

/-!
# Operating the timers

The operations on time and timers, shared by everything that has a watch. Timers are numbered from
zero.
-/

namespace ConnLease.Leak

inductive TimerOp where
  | newTimer (reporter : Reporter)
  | shutDown (timer : Nat)
  | inspect (timer : Nat)
  /-- Drop the receiving end of a channel. -/
  | closeChannel (timer : Nat)
  | settle (millis : Nat)
deriving Repr, DecidableEq

inductive TimerReply where
  /-- The operation names a timer that does not exist. -/
  | missing
  | created (timer : Nat)
  | done
  | shutDown (t : Timer)
  | inspected (t : Timer)
  | notices (ns : List Notice)
deriving Repr, DecidableEq

def Reporter.closed : Reporter → Reporter
  | .channel _ => .channel false
  | other => other

namespace Watch

/-- Perform an operation; the last part of the answer holds the events that it logs. -/
def operate (w : Watch) : TimerOp → Watch × TimerReply × List LogEvent
  | .newTimer reporter =>
    ({ w with timers := w.timers.push { reporter } }, .created w.timers.next, [])
  | .shutDown timer =>
    match w.timers.get? timer with
    | none => (w, .missing, [])
    | some t =>
      let t := { t with shutDown := true }
      ({ w with timers := w.timers.modify timer fun _ => t }, .shutDown t, [.timerShutDown])
  | .inspect timer =>
    match w.timers.get? timer with
    | none => (w, .missing, [])
    | some t => (w, .inspected t, [])
  | .closeChannel timer =>
    match w.timers.get? timer with
    | none => (w, .missing, [])
    | some t =>
      let t := { t with reporter := t.reporter.closed }
      ({ w with timers := w.timers.modify timer fun _ => t }, .done, [])
  | .settle millis =>
    let (w, reports) := w.settle millis
    (w, .notices (Notice.listed reports), reports.flatMap Report.events)

/-- Timers keep their numbers. -/
theorem isSome_timers_operate {w : Watch} {t : Nat} (h : (w.timers.get? t).isSome = true)
    (op : TimerOp) : ((w.operate op).1.timers.get? t).isSome = true := by
  cases op with
  | newTimer reporter =>
    simp only [operate, Roster.get?_push]
    split
    · rfl
    · exact h
  | inspect timer =>
    simp only [operate]
    split <;> exact h
  | settle millis => exact h
  | shutDown timer | closeChannel timer =>
    simp only [operate]
    split
    · exact h
    · simp only [Roster.get?_modify]
      split
      · rw [Option.isSome_map]
        exact h
      · exact h

end Watch

end ConnLease.Leak
