import ConnLease.Leak.Watch

/-!
# Notices

The reports that an observer of the reporters sees after the watch has settled. Collected reports
show the time at which they came; reports from a channel do not. A dropped report and one that was
only logged are not seen.
-/

namespace ConnLease.Leak

structure Notice where
  time : Option Nat
  timer : Nat
  connection : Nat
  threshold : Duration
deriving Repr, DecidableEq

def Report.notice? (r : Report) : Option Notice :=
  match r.reporter with
  | .collect => some ⟨some r.time, r.timer, r.connection, r.threshold⟩
  | .channel true => some ⟨none, r.timer, r.connection, r.threshold⟩
  | .channel false | .log => none

namespace Notice

/-- Notices are listed by time, those without a time first, then by timer, connection and
threshold. -/
def key (n : Notice) : List Nat :=
  [match n.time with
    | none => 0
    | some t => t + 1, n.timer, n.connection, n.threshold.nanos]

def listed (reports : List Report) : List Notice :=
  (reports.filterMap Report.notice?).mergeSort fun a b => !b.key.lex a.key Nat.blt

end Notice

end ConnLease.Leak
