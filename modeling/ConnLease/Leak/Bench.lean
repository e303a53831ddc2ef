import ConnLease.Leak.Clockwork

/-!
# A bench for leak detectors

Detectors on their own, without connections: any number of detectors on any number of timers, each
armed for a connection number of the caller's choice. Detectors are numbered from zero.
-/

namespace ConnLease.Leak

structure Bench where
  watch : Watch := {}
  detectors : Roster 0 Detector := .empty
deriving Repr, DecidableEq

namespace Bench

inductive Op where
  | timer (op : TimerOp)
  | newDetector
  | arm (detector connection : Nat) (threshold : Duration) (timer : Nat)
  | cancel (detector : Nat)
  | reset (detector : Nat)
  | hasPlace (detector : Nat)
  | isFinal (detector : Nat)
  /-- Put a new detector in the place of one, whose check goes on without it. -/
  | replace (detector : Nat)
deriving Repr, DecidableEq

inductive Reply where
  /-- The step names a timer or a detector that does not exist. -/
  | missing
  | timer (reply : TimerReply)
  | created (detector : Nat)
  | armed
  | refused (e : LeaseError)
  | flag (b : Bool)
  | done
deriving Repr, DecidableEq

/-- The phase of every detector, in order. -/
def phases (b : Bench) : List LeakPhase := b.detectors.toList.map b.watch.phase

/-- Perform a step on an existing detector. -/
def onDetector (b : Bench) (n : Nat) (f : Detector → Bench × Reply) : Bench × Reply :=
  match b.detectors.get? n with
  | none => (b, .missing)
  | some d => f d

def arm [Scheduler] (b : Bench) (n connection : Nat) (threshold : Duration) (timer : Nat) :
    Bench × Reply :=
  b.onDetector n fun d =>
    if (b.watch.timers.get? timer).isNone then (b, .missing)
    else
      match b.watch.arm d connection threshold timer with
      | .ok (watch, d) => ({ watch, detectors := b.detectors.modify n fun _ => d }, .armed)
      | .error e => (b, .refused e)

/-- Perform a step; the last part of the answer holds the events that it logs. -/
def step [Scheduler] (b : Bench) : Op → (Bench × Reply) × List LogEvent
  | .timer op =>
    let (watch, reply, events) := b.watch.operate op
    (({ b with watch }, .timer reply), events)
  | .newDetector =>
    (({ b with detectors := b.detectors.push {} }, .created b.detectors.next), [])
  | .arm n connection threshold timer => (b.arm n connection threshold timer, [])
  | .cancel n =>
    (b.onDetector n fun d =>
      let (watch, won) := b.watch.cancel d
      ({ b with watch }, .flag won), [])
  | .reset n =>
    (b.onDetector n fun d =>
      let (watch, d) := b.watch.reset d
      ({ watch, detectors := b.detectors.modify n fun _ => d }, .done), [])
  | .hasPlace n => (b.onDetector n fun d => (b, .flag (Watch.hasPlace d)), [])
  | .isFinal n => (b.onDetector n fun d => (b, .flag (b.watch.phase d).isFinal), [])
  | .replace n =>
    (b.onDetector n fun _ => ({ b with detectors := b.detectors.modify n fun _ => {} }, .done), [])

end Bench

end ConnLease.Leak
