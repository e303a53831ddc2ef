import ConnLease.Session.Basic

/-!
# Giving connections back

A pool notes down every connection that comes back to it. A pool that recycles also sorts them: a
connection that can be lent out again becomes the last of the idle ones, and a broken one is
discarded.
-/

namespace ConnLease

def Metadata.release (m : Metadata) : Release where
  connection := m.connection
  broken := m.broken
  openStatements := m.openStatements
  leak := m.leak

namespace Pool

/-- Take back a connection with the given snapshot. -/
def receive (p : Pool) (m : Metadata) : Pool :=
  let p := { p with releases := p.releases ++ [m.release] }
  if !p.recycles then p
  else if m.isReusable then { p with idle := p.idle ++ [m.connection] }
  else { p with discarded := p.discarded ++ [m.connection] }

/-- The events of taking back a connection. -/
def receiveEvents (p : Pool) (m : Metadata) : List LogEvent :=
  if p.recycles && !m.isReusable then [.discarded m.connection] else []

/-! ## What comes back is noted -/

theorem releases_receive (p : Pool) (m : Metadata) :
    (p.receive m).releases = p.releases ++ [m.release] := by
  unfold receive
  cases p.recycles <;> cases m.isReusable <;> rfl

theorem idle_receive (p : Pool) (m : Metadata) :
    (p.receive m).idle =
      if p.recycles && m.isReusable then p.idle ++ [m.connection] else p.idle := by
  unfold receive
  cases p.recycles <;> cases m.isReusable <;> simp

theorem discarded_receive (p : Pool) (m : Metadata) :
    (p.receive m).discarded =
      if p.recycles && !m.isReusable then p.discarded ++ [m.connection] else p.discarded := by
  unfold receive
  cases p.recycles <;> cases m.isReusable <;> simp

/-- Taking back changes neither what a pool is for nor its timer. -/
theorem receive_fields (p : Pool) (m : Metadata) :
    (p.receive m).recycles = p.recycles ∧ (p.receive m).timer = p.timer := by
  unfold receive
  cases p.recycles <;> cases m.isReusable <;> exact ⟨rfl, rfl⟩

end Pool

namespace Session

/-- Hand a connection to its owner. An owner that is gone gets nothing. -/
def release (w : Session) (c : Nat) : Session :=
  match w.connections.get? c with
  | none => w
  | some conn =>
    match w.pools.get? conn.owner with
    | some pool =>
      if pool.held then
        let m := w.metadata c conn
        { w.onPool conn.owner (·.receive m) with log := w.log ++ pool.receiveEvents m }
      else w.emit (.ownerGone c)
    | none => w.emit (.ownerGone c)

end Session

end ConnLease
