import ConnLease.LeaseError

/-!
# Connection metadata

A snapshot of a connection for the pool that admits and evicts it. Instants are counted in one unit
of the caller's choice from one base, and may lie before it.
-/

namespace ConnLease

structure Metadata where
  connection : Nat
  createdAt : Int
  /-- `none` when it was read from a clock that is not observed. -/
  lastAccess : Option Int
  openStatements : Nat
  closed : Bool
  broken : Bool
  leak : LeakPhase
deriving Repr, DecidableEq

namespace Metadata

/-- The time from one instant to a later one, and zero if it is not later. -/
def elapsed (since now : Int) : Nat := (now - since).toNat

def age (m : Metadata) (now : Int) : Nat := elapsed m.createdAt now

def idleTime (m : Metadata) (now : Int) : Option Nat := m.lastAccess.map (elapsed · now)

/-- A released connection can be lent out again unless it is broken. -/
def isReusable (m : Metadata) : Bool := m.closed && !m.broken

end Metadata

end ConnLease
